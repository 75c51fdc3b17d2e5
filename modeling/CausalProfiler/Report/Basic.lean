import CausalProfiler.Impact.Basic
/-!
Reports: the ranked impacts of a profile with its totals and its most sampled lines. Sample
counts are listed by count, largest first, lines of equal count by name, and cut to the
requested number.
-/
namespace CausalProfiler

/-- What a report shows of a profile. -/
structure Report where
  runs : Nat
  experiments : Nat
  runtime : Nat
  impacts : List LineImpact
  samples : List (String × Nat)

/-- The schema version of report documents. -/
def Report.schemaVersion : Nat := 1

/-- The version of the profiler that writes reports. -/
def Report.profilerVersion : String := "0.1.0"

/-- Sample order: larger count first, then the line's name. -/
def sampleBefore (a b : String × Nat) : Bool :=
  if a.2 ≠ b.2 then b.2 < a.2 else a.1 ≤ b.1

/-- The report of a profile, ranking lines with at least `minPoints` measurements and
listing at most `top` sampled lines. -/
def Report.ofProfile (p : Profile) (minPoints top : Nat) : Report where
  runs := p.runs
  experiments := p.experiments.length
  runtime := p.runtime
  impacts := p.impacts minPoints
  samples := (p.samples.mergeSort sampleBefore).take top

end CausalProfiler
