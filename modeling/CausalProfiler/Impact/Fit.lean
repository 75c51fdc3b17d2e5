import CausalProfiler.Number.Compare
/-!
Least-squares lines through measurements. A measurement pairs a line's virtual speedup with
the progress speedup observed at it. The fit needs three measurements and two distinct
speedups; it reports the slope, intercept, coefficient of determination, the slope's standard
error and its 95% confidence interval from Student's t distribution.
-/
namespace CausalProfiler

/-- The progress speedup observed at one virtual speedup of a line. -/
structure Measurement where
  speedup : Float
  progressSpeedup : Float

/-- A least-squares line and its quality. -/
structure Fit where
  slope : Float
  intercept : Float
  rSquared : Float
  slopeStdError : Float
  slopeCiLower : Float
  slopeCiUpper : Float
  n : Nat

namespace Fit

/-- The confidence interval of the slope lies strictly on one side of zero. -/
def significant (f : Fit) : Bool :=
  (f.slopeCiLower > 0.0 && f.slopeCiUpper > 0.0) || (f.slopeCiLower < 0.0 && f.slopeCiUpper < 0.0)

/-- The line explains more than 70% of the variance. -/
def goodFit (f : Fit) : Bool := f.rSquared > 0.7

/-- The two-tailed 95% critical value of Student's t distribution with `df` degrees of
freedom, from the standard table; none for no degrees of freedom. -/
def tCritical (df : Nat) : Float :=
  match df with
  | 0 => 1.0 / 0.0
  | 1 => 12.706 | 2 => 4.303 | 3 => 3.182 | 4 => 2.776 | 5 => 2.571
  | 6 => 2.447 | 7 => 2.365 | 8 => 2.306 | 9 => 2.262 | 10 => 2.228
  | 11 => 2.201 | 12 => 2.179 | 13 => 2.160 | 14 => 2.145 | 15 => 2.131
  | 16 => 2.120 | 17 => 2.110 | 18 => 2.101 | 19 => 2.093 | 20 => 2.086
  | df =>
    if df ≤ 25 then 2.060 else if df ≤ 30 then 2.042 else if df ≤ 40 then 2.021
    else if df ≤ 60 then 2.000 else if df ≤ 120 then 1.980 else 1.960

/-- The spacing of doubles at one. -/
def epsilon : Float := Float.ofBits 0x3CB0000000000000

/-- A sum of doubles in order, starting from `-0` so that an all-`-0` sum keeps its sign. -/
def sum (xs : List Float) : Float := xs.foldl (· + ·) (-0.0)

/-- The least-squares line through the measurements; none with fewer than three of them or
when all speedups are equal. -/
def ofMeasurements? (ms : List Measurement) : Option Fit :=
  let n := ms.length
  if n < 3 then none
  else
    let count := Number.ofWord n
    let meanX := sum (ms.map (·.speedup)) / count
    let meanY := sum (ms.map (·.progressSpeedup)) / count
    let (sxx, syy, sxy) := ms.foldl (fun (sxx, syy, sxy) m =>
      let dx := m.speedup - meanX
      let dy := m.progressSpeedup - meanY
      (sxx + dx * dx, syy + dy * dy, sxy + dx * dy)) ((0.0 : Float), (0.0 : Float), (0.0 : Float))
    if sxx.abs < epsilon then none
    else
      let slope := sxy / sxx
      let intercept := meanY - slope * meanX
      let rSquared := if syy.abs < epsilon then 1.0
        else Number.minNum (slope * slope * sxx / syy) 1.0
      let rss := sum (ms.map fun m =>
        let r := m.progressSpeedup - (intercept + slope * m.speedup)
        r * r)
      let s := (rss / (count - 2.0)).sqrt
      let stdError := s / sxx.sqrt
      let margin := tCritical (n - 2) * stdError
      some ⟨slope, intercept, rSquared, stdError, slope - margin, slope + margin, n⟩

end Fit

/-- The largest area under the piecewise-linear progress curve from the first measurement up
to a later one, divided by that one's speedup; measurements come sorted by speedup, and only
points of positive speedup end a span. -/
def maxNormalizedArea (ms : List Measurement) : Float :=
  let step := fun ((area, best) : Float × Float) ((p, c) : Measurement × Measurement) =>
    let area := area + (p.progressSpeedup + c.progressSpeedup) / 2.0 * (c.speedup - p.speedup)
    (area, if c.speedup > 0.0 then Number.maxNum best (area / c.speedup) else best)
  ((ms.zip ms.tail).foldl step (0.0, 0.0)).2

end CausalProfiler
