import CausalProfiler.Impact.Cell
import CausalProfiler.Proofs.SortedTables
/-!
# What a cell adds up

The cells of a profile are three levels of key-sorted tables: by line, by point name, by speedup
key. Read down the three levels (`Cells.cell?`), aggregation is a fold: the cell of a line, point
and key is what taking the records of that line, point and key in log order makes of no cell
(`Cells.cell?_ofProfile`), each record creating the cell as its own kind when there is none yet.

* `Cells.cell?_update`, `Cells.cell?_add`: an update changes one cell, and an experiment's
  records reach the cell of their line, point and key and no other;
* `PointRecord.foldl_addTo_throughput`, `PointRecord.foldl_addTo_latency`: a cell sums the
  records of its own kind and stays as it is under the others;
* `aggregate_sums_unmixed`: where the records of a line, point and key are all of one kind,
  their cell is of that kind and holds their saturating sums; without records there is no cell;
* `mixed_point_drops_latency`: a point name with a throughput and a latency record in one
  experiment keeps a throughput cell, and the latency record is counted nowhere.
-/
namespace CausalProfiler

/-- Adds up words, stopping at the largest word. -/
def Word.sumSat (xs : List Nat) : Nat := xs.foldl Word.addSat 0

/-! ## Cells -/

namespace Cells

open Sorted

/-- The cell of a line, point and speedup key, read down the three levels. -/
def cell? (cells : Cells) (line point : String) (key : Nat) : Option Cell :=
  ((find? line cells).bind (find? point)).bind (find? key)

/-- Every level of the cells ascends by its key. -/
def Ordered (cells : Cells) : Prop := AscendingWith (AscendingWith Ascending) cells

variable {cells : Cells} {line point l p : String} {key k : Nat} {init : Cell} {f : Cell → Cell}

theorem ordered_nil : Ordered [] := AscendingWith.nil

/-- A missing level reads as an empty one. -/
theorem cell?_eq :
    cells.cell? l p k = find? k ((find? p ((find? l cells).getD [])).getD []) := by
  unfold cell?
  cases find? l cells with
  | none => rfl
  | some byPoint =>
    show (find? p byPoint).bind (find? k) = find? k ((find? p byPoint).getD [])
    cases find? p byPoint <;> rfl

theorem Ordered.update (h : cells.Ordered) : (cells.update line point key init f).Ordered :=
  h.alter AscendingWith.nil fun _ byPoint => byPoint.alter ascending_nil fun _ byKey => byKey.alter

/-- An update changes the cell it names, from `init` when it is new, and no other cell. -/
theorem cell?_update (h : cells.Ordered) :
    (cells.update line point key init f).cell? l p k =
      if line = l ∧ point = p ∧ key = k then some (f ((cells.cell? line point key).getD init))
      else cells.cell? l p k := by
  have byPoint : AscendingWith Ascending ((find? line cells).getD []) :=
    h.getD_find? AscendingWith.nil
  have byKey : Ascending ((find? point ((find? line cells).getD [])).getD []) :=
    byPoint.getD_find? ascending_nil
  simp only [Cells.update, cell?_eq, getD_find?_alter h.ascending]
  by_cases hl : line = l
  · subst hl
    simp only [if_true, getD_find?_alter byPoint.ascending, true_and]
    by_cases hp : point = p
    · subst hp
      simp only [if_true, find?_alter byKey, true_and]
    · simp only [hp, if_false, false_and]
  · simp only [hl, if_false, false_and]

/-- Opening a line leaves every cell as it was. -/
theorem cell?_openLine (h : cells.Ordered) :
    Cells.cell? (alter line [] id cells) l p k = cells.cell? l p k := by
  rw [cell?_eq, cell?_eq, getD_find?_alter h.ascending]
  split
  · rename_i same
    subst same
    rfl
  · rfl

theorem Ordered.openLine (h : cells.Ordered) : Cells.Ordered (alter line [] id cells) :=
  h.alter AscendingWith.nil fun _ byPoint => byPoint

end Cells

/-! ## Records of a progress point -/

/-- A record of a progress point as a cell takes it: a throughput delta or a latency record,
each with the duration of its experiment. -/
inductive PointRecord where
  | throughput (delta duration : Nat)
  | latency (r : LatencyRecord) (duration : Nat)

namespace PointRecord

/-- The empty cell of a record's kind. -/
def empty : PointRecord → Cell
  | .throughput .. => .throughput 0 0
  | .latency .. => .latency 0 0 0.0 0

/-- Adds a record to a cell; a cell of the other kind stays as it is. -/
def add : PointRecord → Cell → Cell
  | .throughput delta duration => Cell.addThroughput delta duration
  | .latency r duration => Cell.addLatency r duration

/-- What a record makes of the cell it lands on, created empty of the record's kind when there
is none. -/
def addTo (c : Option Cell) (m : PointRecord) : Option Cell := some (m.add (c.getD m.empty))

/-- The delta and duration of a throughput record. -/
def throughput? : PointRecord → Option (Nat × Nat)
  | .throughput delta duration => some (delta, duration)
  | .latency .. => none

/-- The latency record and duration of a latency record. -/
def latency? : PointRecord → Option (LatencyRecord × Nat)
  | .throughput .. => none
  | .latency r duration => some (r, duration)

/-- The first record creates the cell as its own kind. -/
theorem foldl_addTo_none (m : PointRecord) (rest : List PointRecord) :
    (m :: rest).foldl addTo none = (m :: rest).foldl addTo (some m.empty) := rfl

/-- A throughput cell sums the throughput records and stays as it is under the latency ones. -/
theorem foldl_addTo_throughput (ms : List PointRecord) (delta duration : Nat) :
    ms.foldl addTo (some (.throughput delta duration)) =
      some (.throughput (((ms.filterMap throughput?).map (·.1)).foldl Word.addSat delta)
        (((ms.filterMap throughput?).map (·.2)).foldl Word.addSat duration)) := by
  induction ms generalizing delta duration with
  | nil => rfl
  | cons m rest ih =>
    cases m with
    | throughput d t => exact ih _ _
    | latency r t => exact ih _ _

/-- A latency cell sums the arrivals, departures and durations of the latency records and stays
as it is under the throughput ones. -/
theorem foldl_addTo_latency (ms : List PointRecord) (arrivals departures duration : Nat)
    (difference : Float) :
    ∃ difference', ms.foldl addTo (some (.latency arrivals departures difference duration)) =
      some (.latency (((ms.filterMap latency?).map (·.1.arrivals)).foldl Word.addSat arrivals)
        (((ms.filterMap latency?).map (·.1.departures)).foldl Word.addSat departures) difference'
        (((ms.filterMap latency?).map (·.2)).foldl Word.addSat duration)) := by
  induction ms generalizing arrivals departures duration difference with
  | nil => exact ⟨difference, rfl⟩
  | cons m rest ih =>
    cases m with
    | throughput d t => exact ih _ _ _ _
    | latency r t => exact ih _ _ _ _

end PointRecord

/-- An experiment's records for a line, point and speedup key, in the order aggregation takes
them: its throughput records, then its latency records. -/
def Experiment.pointRecords (x : Experiment) (line point : String) (key : Nat) :
    List PointRecord :=
  if x.selected = line ∧ speedupKey x.speedup = key then
    (x.throughput.filter (·.1 == point)).map (fun t => .throughput t.2 x.duration) ++
      (x.latency.filter (·.name == point)).map (fun r => .latency r x.duration)
  else []

/-- A profile's records for a line, point and speedup key, in log order. -/
def Profile.pointRecords (p : Profile) (line point : String) (key : Nat) : List PointRecord :=
  p.experiments.flatMap (·.pointRecords line point key)

/-- The delta of every throughput record of a line, point and speedup key, with its
experiment's duration. -/
def Profile.throughputRecords (p : Profile) (line point : String) (key : Nat) : List (Nat × Nat) :=
  (p.pointRecords line point key).filterMap PointRecord.throughput?

/-- Every latency record of a line, point and speedup key, with its experiment's duration. -/
def Profile.latencyRecords (p : Profile) (line point : String) (key : Nat) :
    List (LatencyRecord × Nat) :=
  (p.pointRecords line point key).filterMap PointRecord.latency?

namespace Cells

open Sorted

variable {cells : Cells} {line l p : String} {key k : Nat}

/-- Updates of one line and key, one per item: the cell of a point takes the records of the items
of that point, in order, and no other cell changes. -/
theorem foldl_update {ι : Type} (meas : ι → PointRecord) (name : ι → String)
    (step : Cells → ι → Cells)
    (hstep : ∀ c i, step c i = c.update line (name i) key (meas i).empty (meas i).add) :
    ∀ (items : List ι) (cells : Cells), cells.Ordered →
      (items.foldl step cells).Ordered ∧
        (items.foldl step cells).cell? l p k =
          if line = l ∧ key = k then
            ((items.filter (name · == p)).map meas).foldl PointRecord.addTo (cells.cell? l p k)
          else cells.cell? l p k := by
  intro items
  induction items with
  | nil =>
    intro cells h
    exact ⟨h, by split <;> rfl⟩
  | cons i rest ih =>
    intro cells h
    obtain ⟨ordered, reads⟩ := ih (step cells i) (by rw [hstep]; exact h.update)
    refine ⟨ordered, ?_⟩
    rw [List.foldl_cons, reads, hstep, cell?_update h]
    by_cases here : line = l ∧ key = k
    · obtain ⟨rfl, rfl⟩ := here
      by_cases named : name i = p
      · subst named
        simp [PointRecord.addTo]
      · simp [named]
    · simp only [here, if_false]
      rw [if_neg (fun h => here ⟨h.1, h.2.2⟩)]

/-- Adding an experiment gives each cell the experiment's records of its line, point and key. -/
theorem cell?_add (h : cells.Ordered) (x : Experiment) :
    (cells.add x).Ordered ∧
      (cells.add x).cell? l p k =
        (x.pointRecords l p k).foldl PointRecord.addTo (cells.cell? l p k) := by
  have opened : Cells.Ordered (alter x.selected [] id cells) := h.openLine
  -- the throughput records, then the latency records, are updates of the selected line and key
  obtain ⟨ordered₁, reads₁⟩ := foldl_update (l := l) (p := p) (k := k)
    (fun t => PointRecord.throughput t.2 x.duration) (·.1)
    (fun cells t => cells.update x.selected t.1 (speedupKey x.speedup) (.throughput 0 0)
      (Cell.addThroughput t.2 x.duration))
    (fun _ _ => rfl) x.throughput _ opened
  obtain ⟨ordered₂, reads₂⟩ := foldl_update (l := l) (p := p) (k := k)
    (fun r => PointRecord.latency r x.duration) (·.name)
    (fun cells r => cells.update x.selected r.name (speedupKey x.speedup) (.latency 0 0 0.0 0)
      (Cell.addLatency r x.duration))
    (fun _ _ => rfl) x.latency _ ordered₁
  refine ⟨ordered₂, ?_⟩
  simp only [Cells.add]
  rw [reads₂, reads₁, cell?_openLine h, Experiment.pointRecords]
  split
  · rw [List.foldl_append]
  · rfl

/-- The cells of a profile: each is what the profile's records of its line, point and key,
taken in log order, make of no cell. -/
theorem cell?_ofProfile (pr : Profile) :
    (Cells.ofProfile pr).cell? l p k = (pr.pointRecords l p k).foldl PointRecord.addTo none := by
  have run : ∀ (xs : List Experiment) (cells : Cells), cells.Ordered →
      (xs.foldl Cells.add cells).Ordered ∧
        (xs.foldl Cells.add cells).cell? l p k =
          (xs.flatMap (·.pointRecords l p k)).foldl PointRecord.addTo (cells.cell? l p k) := by
    intro xs
    induction xs with
    | nil => exact fun cells h => ⟨h, rfl⟩
    | cons x rest ih =>
      intro cells h
      obtain ⟨ordered, reads⟩ := cell?_add (l := l) (p := p) (k := k) h x
      obtain ⟨ordered', reads'⟩ := ih _ ordered
      refine ⟨ordered', ?_⟩
      rw [List.foldl_cons, reads', reads, List.flatMap_cons, List.foldl_append]
  exact (run pr.experiments [] ordered_nil).2

end Cells

/-- **Aggregation sums every record of an unmixed cell.** Take any profile and any line, point
name and speedup key whose records are all throughput records or all latency records. If there
are throughput records, the cell is a throughput cell whose delta is the saturating sum of their
deltas and whose duration the saturating sum of their experiments' durations, once per record.
If there are latency records, the cell is a latency cell whose arrivals, departures and duration
are the saturating sums over them. Without records there is no cell. -/
theorem aggregate_sums_unmixed (pr : Profile) (line point : String) (key : Nat)
    (unmixed : pr.throughputRecords line point key = [] ∨ pr.latencyRecords line point key = []) :
    let throughput := pr.throughputRecords line point key
    let latency := pr.latencyRecords line point key
    let cell := (Cells.ofProfile pr).cell? line point key
    (throughput ≠ [] → cell = some (.throughput (Word.sumSat (throughput.map (·.1)))
      (Word.sumSat (throughput.map (·.2))))) ∧
    (latency ≠ [] → ∃ difference, cell = some
      (.latency (Word.sumSat (latency.map (·.1.arrivals)))
        (Word.sumSat (latency.map (·.1.departures))) difference
        (Word.sumSat (latency.map (·.2))))) ∧
    (throughput = [] → latency = [] → cell = none) := by
  intro throughput latency cell
  have fold : cell = (pr.pointRecords line point key).foldl PointRecord.addTo none :=
    Cells.cell?_ofProfile pr
  cases hm : pr.pointRecords line point key with
  | nil =>
    have none_t : throughput = [] := by simp [throughput, Profile.throughputRecords, hm]
    have none_l : latency = [] := by simp [latency, Profile.latencyRecords, hm]
    exact ⟨fun ne => absurd none_t ne, fun ne => absurd none_l ne,
      fun _ _ => by rw [fold, hm]; rfl⟩
  | cons m rest =>
    rw [hm, PointRecord.foldl_addTo_none] at fold
    cases m with
    | throughput d t =>
      -- the first record makes a throughput cell, so there are no latency records to sum
      have some_t : pr.throughputRecords line point key ≠ [] := by
        simp [Profile.throughputRecords, hm, PointRecord.throughput?]
      have none_l : latency = [] := unmixed.resolve_left some_t
      refine ⟨fun _ => ?_, fun ne => absurd none_l ne, fun t0 => absurd t0 some_t⟩
      rw [fold, PointRecord.empty, PointRecord.foldl_addTo_throughput]
      simp only [throughput, Profile.throughputRecords, hm, Word.sumSat]
    | latency r t =>
      have some_l : pr.latencyRecords line point key ≠ [] := by
        simp [Profile.latencyRecords, hm, PointRecord.latency?]
      have none_t : throughput = [] := unmixed.resolve_right some_l
      refine ⟨fun ne => absurd none_t ne, fun _ => ?_, fun _ l0 => absurd l0 some_l⟩
      rw [fold, PointRecord.empty]
      obtain ⟨difference, sums⟩ :=
        PointRecord.foldl_addTo_latency (PointRecord.latency r t :: rest) 0 0 0 0.0
      refine ⟨difference, ?_⟩
      rw [sums]
      simp only [latency, Profile.latencyRecords, hm, Word.sumSat]

/-- Point `p` of line `a.rs:1` visited 2 and 3 times in an experiment of 1000 and once in one of
500, with no latency records: its cell adds the visits and counts each record's duration. -/
theorem visits_of_two_experiments_sum :
    let pr : Profile := ⟨[⟨"a.rs:1", 0.0, 1000, 0, [("p", 2), ("q", 7), ("p", 3)], []⟩,
      ⟨"a.rs:1", 0.0, 500, 0, [("p", 1)], []⟩], [], 0, 0⟩
    (pr.throughputRecords "a.rs:1" "p" (speedupKey 0.0) = [] ∨
      pr.latencyRecords "a.rs:1" "p" (speedupKey 0.0) = []) ∧
    (Cells.ofProfile pr).cell? "a.rs:1" "p" (speedupKey 0.0) = some (.throughput 6 2500) := by
  intro pr
  have records : pr.throughputRecords "a.rs:1" "p" (speedupKey 0.0) =
      [(2, 1000), (3, 1000), (1, 500)] := by
    simp [pr, Profile.throughputRecords, Profile.pointRecords, Experiment.pointRecords,
      PointRecord.throughput?]
  have unmixed : pr.throughputRecords "a.rs:1" "p" (speedupKey 0.0) = [] ∨
      pr.latencyRecords "a.rs:1" "p" (speedupKey 0.0) = [] := by
    right
    simp [pr, Profile.latencyRecords, Profile.pointRecords, Experiment.pointRecords,
      PointRecord.latency?]
  refine ⟨unmixed, ?_⟩
  rw [(aggregate_sums_unmixed pr "a.rs:1" "p" (speedupKey 0.0) unmixed).1 (by simp [records]),
    records]
  rfl

/-- A point name with a throughput record and a latency record in one experiment: its cell is a
throughput cell holding the throughput record alone, and the latency record is counted nowhere. -/
theorem mixed_point_drops_latency :
    let pr : Profile :=
      ⟨[⟨"a.rs:1", 0.0, 1000, 0, [("p", 1)], [⟨"p", 10, 10, 4⟩]⟩], [], 0, 0⟩
    pr.latencyRecords "a.rs:1" "p" (speedupKey 0.0) = [(⟨"p", 10, 10, 4⟩, 1000)] ∧
      (Cells.ofProfile pr).cell? "a.rs:1" "p" (speedupKey 0.0) = some (.throughput 1 1000) := by
  intro pr
  have measured : pr.pointRecords "a.rs:1" "p" (speedupKey 0.0) =
      [.throughput 1 1000, .latency ⟨"p", 10, 10, 4⟩ 1000] := by
    simp [pr, Profile.pointRecords, Experiment.pointRecords]
  refine ⟨by rw [Profile.latencyRecords, measured]; rfl, ?_⟩
  rw [Cells.cell?_ofProfile, measured]
  simp only [List.foldl, PointRecord.addTo, PointRecord.add, PointRecord.empty, Option.getD,
    Cell.addLatency, Cell.addThroughput]
  rfl

end CausalProfiler
