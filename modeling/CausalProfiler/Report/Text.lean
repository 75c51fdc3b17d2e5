import CausalProfiler.Report.Basic
import CausalProfiler.Number.Format
/-!
Reports as text for people: a header with the totals and the runtime in seconds to two places,
then each ranked line with one row per point (name padded to 24 characters, area, and slope with
its confidence interval and r² when fitted, a star when the slope is significant), then the
most sampled lines with counts right-aligned in eight columns.
-/
namespace CausalProfiler

/-- Pads with spaces on the right to `width` characters; longer texts stay whole. -/
def padRight (width : Nat) (s : String) : String :=
  s ++ String.ofList (List.replicate (width - s.length) ' ')

/-- Pads with spaces on the left to `width` characters. -/
def padLeft (width : Nat) (s : String) : String :=
  String.ofList (List.replicate (width - s.length) ' ') ++ s

/-- One point's row. -/
def PointImpact.row (p : PointImpact) : String :=
  "     " ++ padRight 24 p.point ++ " area=" ++ Number.fixed 3 true p.area ++
    (match p.fit with
      | none => ""
      | some f =>
        "  slope=" ++ Number.fixed 3 true f.slope ++ " [" ++ Number.fixed 3 true f.slopeCiLower ++
          ", " ++ Number.fixed 3 true f.slopeCiUpper ++ "] r2=" ++ Number.fixed 2 false f.rSquared ++
          (if f.significant then " *" else "")) ++ "\n"

/-- The report as text. -/
def Report.text (r : Report) : String :=
  let seconds := Number.ofWord r.runtime / 1e9
  let header := "=== Causal Profile ===\n" ++ toString r.experiments ++ " experiments over " ++
    toString r.runs ++ " run(s), " ++ Number.fixed 2 false seconds ++ "s of runtime\n\n"
  let empty := if r.impacts.isEmpty then
      "No line has enough data yet.\n" ++
        "Make sure a progress point is visited and the program runs for a few seconds.\n"
    else ""
  let ranked := String.join ((r.impacts.zipIdx 1).map fun (l, rank) =>
    toString rank ++ ". " ++ l.line ++ "\n" ++ String.join (l.points.map (·.row)))
  let sampled := if r.samples.isEmpty then ""
    else "\nMost sampled lines:\n" ++ String.join (r.samples.map fun (location, count) =>
      "  " ++ padLeft 8 (toString count) ++ "  " ++ location ++ "\n")
  header ++ empty ++ ranked ++ sampled

end CausalProfiler
