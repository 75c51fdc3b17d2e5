import CausalProfiler.Impact.Cell
import CausalProfiler.Impact.Fit
/-!
Causal impact. For each line and progress point, each trusted cell's value is compared with the
baseline cell (speedup zero): the progress speedup is the baseline's value minus the cell's,
over the baseline's. Progress speedups outside `[-1, 2]` are dropped as noise. A point counts
for a line when it has a trusted, non-zero baseline and enough measurements; lines are ranked by
their best normalized area, then their steepest slope, then their name.
-/
namespace CausalProfiler

/-- The effect of speeding up one line on one progress point. -/
structure PointImpact where
  point : String
  measurements : List Measurement
  area : Float
  fit : Option Fit

/-- The effect of speeding up one line on every progress point it affects. -/
structure LineImpact where
  line : String
  points : List PointImpact

/-- A point's impact from its cells by speedup key, if its baseline is trusted, finite and
non-zero and at least `minPoints` (and at least one) measurements remain. -/
def PointImpact.ofCells? (point : String) (cells : List (Nat × Cell)) (minPoints : Nat) :
    Option PointImpact := do
  let baseline ← Sorted.find? 0 cells
  guard baseline.enough
  let base ← baseline.value?
  guard (base != 0.0)
  let measurements := cells.filterMap fun (key, cell) => do
    guard cell.enough
    let v ← cell.value?
    let progress := (base - v) / base
    guard (-1.0 ≤ progress && progress ≤ 2.0)
    pure ⟨Number.ofWord key / 10000.0, progress⟩
  guard (max minPoints 1 ≤ measurements.length)
  pure ⟨point, measurements, maxNormalizedArea measurements, Fit.ofMeasurements? measurements⟩

namespace LineImpact

/-- The best normalized area over the line's points, at least zero. -/
def area (l : LineImpact) : Float := l.points.foldl (fun a p => Number.maxNum a p.area) 0.0

/-- The steepest fitted slope over the line's points; minus infinity without a fit. -/
def slope (l : LineImpact) : Float :=
  (l.points.filterMap (·.fit)).foldl (fun a f => Number.maxNum a f.slope) (-1.0 / 0.0)

/-- Ranking order: larger area first, then steeper slope, then the line's name; areas and
slopes compare in the total order of doubles. -/
def before (a b : LineImpact) : Bool :=
  let ka := Number.totalKey a.area
  let kb := Number.totalKey b.area
  if ka ≠ kb then kb < ka
  else
    let sa := Number.totalKey a.slope
    let sb := Number.totalKey b.slope
    if sa ≠ sb then sb < sa else a.line ≤ b.line

end LineImpact

/-- The lines whose speedup affects a progress point, ranked. -/
def Profile.impacts (p : Profile) (minPoints : Nat) : List LineImpact :=
  let lines := (Cells.ofProfile p).filterMap fun (line, byPoint) =>
    let points := byPoint.filterMap fun (point, cells) => PointImpact.ofCells? point cells minPoints
    if points.isEmpty then none else some ⟨line, points⟩
  lines.mergeSort LineImpact.before

end CausalProfiler
