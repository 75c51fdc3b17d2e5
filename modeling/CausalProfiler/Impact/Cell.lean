import CausalProfiler.Profile.Basic
import CausalProfiler.Number.Compare
import CausalProfiler.Sorted
/-!
Cells: the experiments of one selected line, one progress point and one speedup, summed. A
throughput cell adds visits and durations; a latency cell adds arrivals and departures and keeps
the duration-weighted mean of the transactions in flight. A point name belongs to the kind of
its first record in a cell; records of the other kind with that name are not counted there.
Sums stop at the largest word.
-/
namespace CausalProfiler

/-- The fewest visits, or arrivals, a cell needs to be trusted. -/
def minDelta : Nat := 5

/-- The summed measurements of one (line, point, speedup) cell. -/
inductive Cell where
  | throughput (delta duration : Nat)
  | latency (arrivals departures : Nat) (difference : Float) (duration : Nat)

namespace Cell

/-- Enough visits, or arrivals, to be trusted. -/
def enough : Cell → Bool
  | .throughput delta _ => minDelta ≤ delta
  | .latency arrivals _ _ _ => minDelta ≤ arrivals

/-- Lower is better: the time between visits, or the mean latency by Little's law (in-flight
count over arrival rate). Only finite values count. -/
def value? (c : Cell) : Option Float :=
  let v := match c with
    | .throughput delta duration => Number.ofWord duration / Number.ofWord delta
    | .latency arrivals _ difference duration =>
      difference / (Number.ofWord arrivals / Number.ofWord duration)
  if v.isNaN || v.isInf then none else some v

/-- Adds a throughput record of an experiment of the given duration. -/
def addThroughput (delta duration : Nat) : Cell → Cell
  | .throughput d t => .throughput (Word.addSat d delta) (Word.addSat t duration)
  | c => c

/-- Adds a latency record of an experiment of the given duration; the in-flight count is
averaged with the durations as weights. -/
def addLatency (r : LatencyRecord) (duration : Nat) : Cell → Cell
  | .latency arrivals departures difference d =>
    let difference :=
      if d = 0 then Number.ofSignedWord r.difference
      else
        let total := Number.ofWord (Word.addSat d duration)
        difference * (Number.ofWord d / total) +
          Number.ofSignedWord r.difference * Number.ofWord duration / total
    .latency (Word.addSat arrivals r.arrivals) (Word.addSat departures r.departures) difference
      (Word.addSat d duration)
  | c => c

end Cell

/-- A speedup as an exact key: hundredths of a percent, rounded half away from zero, negative
values and NaN as zero and values beyond 32 bits as the largest 32-bit value. -/
def speedupKey (speedup : Float) : Nat :=
  (Number.maxNum speedup 0.0 * 10000.0).round.toUInt32.toNat

/-- Cells by line, then point, then speedup key, each level sorted by its key. -/
abbrev Cells := List (String × List (String × List (Nat × Cell)))

/-- Changes the cell of a line, point and key, creating it as `init` when new. -/
def Cells.update (cells : Cells) (line point : String) (key : Nat) (init : Cell)
    (f : Cell → Cell) : Cells :=
  Sorted.alter line [] (Sorted.alter point [] (Sorted.alter key init f)) cells

/-- Adds one experiment's records to the cells. -/
def Cells.add (cells : Cells) (x : Experiment) : Cells :=
  let key := speedupKey x.speedup
  let cells := Sorted.alter x.selected [] id cells
  let cells := x.throughput.foldl (fun cells (name, delta) =>
    Cells.update cells x.selected name key (.throughput 0 0) (Cell.addThroughput delta x.duration)) cells
  x.latency.foldl (fun cells r =>
    Cells.update cells x.selected r.name key (.latency 0 0 0.0 0) (Cell.addLatency r x.duration)) cells

/-- The cells of a profile. -/
def Cells.ofProfile (p : Profile) : Cells := p.experiments.foldl Cells.add []

end CausalProfiler
