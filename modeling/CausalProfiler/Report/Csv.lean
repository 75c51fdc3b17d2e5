import CausalProfiler.Report.Basic
import CausalProfiler.Number.Format
/-!
Reports as comma-separated values: a header, then one row per line, point and measurement, with
the line, the point, the speedup, the progress speedup, the point's area and its fitted slope
(empty without a fit). Numbers are in plain shortest digits. A field holding a comma, a quote or
a newline is quoted, its quotes doubled.
-/
namespace CausalProfiler

/-- A CSV field. -/
def csvField (s : String) : String :=
  if s.toList.any (fun c => c = ',' || c = '"' || c = '\n') then
    "\"" ++ String.join (s.toList.map fun c => if c = '"' then "\"\"" else c.toString) ++ "\""
  else s

/-- The report as CSV. -/
def Report.csv (r : Report) : String :=
  "line,point,speedup,progress_speedup,area,slope\n" ++
    String.join (r.impacts.flatMap fun l => l.points.flatMap fun p =>
      let slope := match p.fit with
        | some f => Number.display f.slope
        | none => ""
      p.measurements.map fun m =>
        csvField l.line ++ "," ++ csvField p.point ++ "," ++ Number.display m.speedup ++ "," ++
          Number.display m.progressSpeedup ++ "," ++ Number.display p.area ++ "," ++ slope ++ "\n")

end CausalProfiler
