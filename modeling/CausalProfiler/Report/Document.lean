import CausalProfiler.Report.Basic
import CausalProfiler.Document
/-!
Reports as JSON documents: totals, then each line's points with their measurements, area and,
when there is one, the fitted line; then the sample counts. Fields appear in that fixed order.
-/
namespace CausalProfiler

def Fit.toDocument (f : Fit) : Document :=
  .record [("slope", .float f.slope), ("intercept", .float f.intercept),
    ("r_squared", .float f.rSquared), ("slope_std_error", .float f.slopeStdError),
    ("slope_ci_lower", .float f.slopeCiLower), ("slope_ci_upper", .float f.slopeCiUpper),
    ("n", .nat f.n)]

def PointImpact.toDocument (p : PointImpact) : Document :=
  .record ([("point", .text p.point),
    ("measurements", .list (p.measurements.map fun m =>
      .record [("speedup", .float m.speedup), ("progress_speedup", .float m.progressSpeedup)])),
    ("area", .float p.area)] ++ (p.fit.map fun f => ("regression", f.toDocument)).toList)

def Report.toDocument (r : Report) : Document :=
  .record [("schema_version", .nat Report.schemaVersion), ("profiler", .text "causa"),
    ("profiler_version", .text Report.profilerVersion), ("runs", .nat r.runs),
    ("experiments", .nat r.experiments), ("runtime_ns", .nat r.runtime),
    ("impacts", .list (r.impacts.map fun l =>
      .record [("line", .text l.line), ("points", .list (l.points.map (·.toDocument)))])),
    ("samples", .list (r.samples.map fun (location, count) =>
      .record [("location", .text location), ("count", .nat count)]))]

/-- The report's JSON text, indented. -/
def Report.json (r : Report) : String := r.toDocument.pretty 0

end CausalProfiler
