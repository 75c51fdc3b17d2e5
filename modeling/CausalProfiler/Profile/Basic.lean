import CausalProfiler.Fault
/-!
Profiles: what a profile log records. A log is a sequence of runs; each run writes experiment
records, each followed by the progress-point records measured during it, cumulative sample
counts per source line and runtime marks. Counters are 64-bit words, held here as naturals
below `2^64`.
-/
namespace CausalProfiler

/-- One latency point's measurement in an experiment: arrivals, departures, and the
transactions in flight at the end beyond those at the start. -/
structure LatencyRecord where
  name : String
  arrivals : Nat
  departures : Nat
  difference : Int
deriving Repr, DecidableEq

/-- One experiment: the selected line, its virtual speedup, the experiment's duration without
inserted delays, the samples of the selected line, and the progress measured at each point. -/
structure Experiment where
  selected : String
  speedup : Float
  duration : Nat
  selectedSamples : Nat
  throughput : List (String × Nat)
  latency : List LatencyRecord

/-- Everything a log records: the experiments in order, the largest sample count seen for
each line (sorted by line name), the runtime of all runs together (saturating at the largest
word) and the number of runs. -/
structure Profile where
  experiments : List Experiment
  samples : List (String × Nat)
  runtime : Nat
  runs : Nat

/-- Raises the count of `key` in a name-sorted table to at least `n`, adding the key in
its place if it is new. -/
def raiseCount (key : String) (n : Nat) : List (String × Nat) → List (String × Nat)
  | [] => [(key, n)]
  | (k, c) :: rest =>
    if key < k then (key, n) :: (k, c) :: rest
    else if key = k then (k, max c n) :: rest
    else (k, c) :: raiseCount key n rest

/-- Why a log cannot be read: a field that a record needs is absent, a number does not read,
or a point record comes before any experiment. Lines count from one. -/
inductive ReadError where
  | missingField (line : Nat) (record : String) (field : String)
  | invalidNumber (line : Nat) (field : String) (value : String)
  | orphanPoint (line : Nat) (record : String)
deriving Repr, DecidableEq

end CausalProfiler
