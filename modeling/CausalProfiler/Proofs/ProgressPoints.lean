import CausalProfiler.Script.Registry
import CausalProfiler.Proofs.ByteOrder
/-!
# A progress registry is two bounded name maps

A registry keeps throughput points and latency points in two name-sorted tables of at most
`capacity` points each. Read through a script of lookups, visits, saves and snapshot reads from
an empty registry, it is two maps from names to wrapping counters:

* `Sorted.FirstKeys`: a table that holds the first `c` distinct keys looked up in it; a lookup
  keeps this whether the key is held, new with room, or new to a full table;
* `Script.Tables`, `Script.tables_runAll`: after any script each table holds the first
  `capacity` distinct names the script looked up or visited in it, in ascending order (the byte
  order of the names, by `Sorted.ascending_iff_bytes`), and each counter the sum of the visits to
  it modulo the word;
* `Script.lookupThroughput_answer`: a lookup succeeds exactly when its name is registered or its
  table has room;
* `Script.throughputDeltas_since_save`, `Script.latencyDeltas_since_save`: read later, a
  snapshot's deltas are the visits since its save, its differences the totals' difference read
  as a signed word;
* `Snapshot.minDelta_eq_min?`: the least delta is the minimum of all deltas.
-/
namespace CausalProfiler

/-- The wrapping difference of two counts taken modulo the word is the count added since. -/
theorem Word.subWrap_add_mod (a d : Nat) :
    Word.subWrap ((a + d) % Word.size) (a % Word.size) = d % Word.size := by
  unfold Word.subWrap
  rw [Word.size_eq]
  omega

/-- The wrapping difference of two counts taken modulo the word is their difference modulo the
word. -/
theorem Word.subWrap_mod_mod (a b : Nat) :
    Word.subWrap (a % Word.size) (b % Word.size) = (((a : Int) - b) % Word.size).toNat := by
  unfold Word.subWrap
  rw [Word.size_eq]
  omega

theorem eraseDups_append_singleton {α : Type} [DecidableEq α] (l : List α) (a : α) :
    (l ++ [a]).eraseDups = if a ∈ l then l.eraseDups else l.eraseDups ++ [a] := by
  rw [List.eraseDups_append]
  by_cases mem : a ∈ l
  · simp [List.removeAll, mem]
  · simp [List.removeAll, mem, List.eraseDups_cons]

theorem mem_take_eraseDups_append {α : Type} [DecidableEq α] {a : α} {c : Nat} {xs : List α}
    (mem : a ∈ xs.eraseDups.take c) (ys : List α) : a ∈ (xs ++ ys).eraseDups.take c := by
  rw [List.eraseDups_append, List.take_append]
  exact List.mem_append_left _ mem

namespace Sorted

variable {κ β : Type} [Ord κ] [DecidableEq κ]
variable {key : κ} {init : β} {f : β → β} {l : List (κ × β)} {c : Nat} {touched : List κ}

/-- A table holding, in ascending order, the first `c` distinct keys of `touched`: what a table
of at most `c` entries becomes when keys are looked up in the order of `touched` and each new one
is added while there is room. -/
structure FirstKeys (c : Nat) (touched : List κ) (l : List (κ × β)) : Prop where
  ascending : Ascending l
  mem : ∀ k, k ∈ l.map Prod.fst ↔ k ∈ touched.eraseDups.take c
  length : l.length = min c touched.eraseDups.length

theorem firstKeys_nil : FirstKeys c [] ([] : List (κ × β)) :=
  ⟨ascending_nil, fun k => by simp, by simp⟩

namespace FirstKeys

/-- A table with room holds every key touched so far. -/
theorem take_of_room (h : FirstKeys c touched l) (room : l.length < c) :
    touched.eraseDups.take c = touched.eraseDups :=
  List.take_of_length_le (by have := h.length; omega)

/-- A new key of a table with room was never touched. -/
theorem not_mem_touched (h : FirstKeys c touched l) (absent : key ∉ l.map Prod.fst)
    (room : l.length < c) : key ∉ touched := by
  intro touchedKey
  apply absent
  rw [h.mem, h.take_of_room room, List.mem_eraseDups]
  exact touchedKey

/-- Touching a key the table holds changes nothing. -/
theorem touch_mem (h : FirstKeys c touched l) (mem : key ∈ l.map Prod.fst) :
    FirstKeys c (touched ++ [key]) l := by
  have old : key ∈ touched := List.mem_eraseDups.mp (List.mem_of_mem_take ((h.mem key).mp mem))
  refine ⟨h.ascending, fun k => ?_, ?_⟩
  · rw [eraseDups_append_singleton, if_pos old]
    exact h.mem k
  · rw [eraseDups_append_singleton, if_pos old]
    exact h.length

/-- Touching any key of a full table changes nothing. -/
theorem touch_full (h : FirstKeys c touched l) (full : c ≤ l.length) :
    FirstKeys c (touched ++ [key]) l := by
  have long : c ≤ touched.eraseDups.length := by have := h.length; omega
  refine ⟨h.ascending, fun k => ?_, ?_⟩
  · rw [eraseDups_append_singleton]
    split
    · exact h.mem k
    · rw [List.take_append_of_le_length long]
      exact h.mem k
  · rw [eraseDups_append_singleton]
    split
    · exact h.length
    · rw [List.length_append, h.length]
      simp only [List.length_singleton]
      omega

variable [Std.LawfulEqOrd κ] [Std.TransOrd κ]

/-- Touching a key a table with room lacks adds it. -/
theorem touch_new (h : FirstKeys c touched l) (absent : key ∉ l.map Prod.fst)
    (room : l.length < c) : FirstKeys c (touched ++ [key]) (alter key init f l) := by
  have fresh := h.not_mem_touched absent room
  have short : touched.eraseDups.length < c := by have := h.length; omega
  have grown : (touched ++ [key]).eraseDups = touched.eraseDups ++ [key] := by
    rw [eraseDups_append_singleton, if_neg fresh]
  refine ⟨h.ascending.alter, fun k => ?_, ?_⟩
  · rw [mem_keys_alter, h.mem, h.take_of_room room, grown,
      List.take_of_length_le (by simp only [List.length_append, List.length_singleton]; omega)]
    simp [or_comm]
  · rw [length_alter h.ascending, if_neg absent, h.length, grown]
    simp only [List.length_append, List.length_singleton]
    omega

/-- Changing the value of a key the table holds keeps what it holds. -/
theorem alter_mem (h : FirstKeys c touched l) (mem : key ∈ l.map Prod.fst) :
    FirstKeys c touched (alter key init f l) := by
  refine ⟨h.ascending.alter, fun k => ?_, ?_⟩
  · rw [mem_keys_alter, ← h.mem]
    constructor
    · rintro (rfl | old)
      · exact mem
      · exact old
    · exact Or.inr
  · rw [length_alter h.ascending, if_pos mem]
    exact h.length

/-- Looking a key up in a table of the first `c` keys touched, adding it while there is room,
touches the key. Every value found afterwards was found before, or is `init` at the key, which was
never touched before. -/
theorem findOrAdd (h : FirstKeys c touched l) (key : κ) (init : β) :
    FirstKeys c (touched ++ [key]) ((Sorted.findOrAdd c key init l).getD l) ∧
      ∀ k v, find? k ((Sorted.findOrAdd c key init l).getD l) = some v →
        find? k l = some v ∨ k = key ∧ key ∉ touched ∧ v = init := by
  by_cases mem : key ∈ l.map Prod.fst
  · rw [findOrAdd_of_mem mem, Option.getD_some]
    exact ⟨h.touch_mem mem, fun k v found => .inl found⟩
  by_cases room : l.length < c
  · rw [findOrAdd_of_room mem room, Option.getD_some]
    refine ⟨h.touch_new mem room, fun k v found => ?_⟩
    rw [find?_alter h.ascending] at found
    split at found
    · -- the new entry holds `init`
      rename_i same
      subst same
      cases found
      exact .inr ⟨rfl, h.not_mem_touched mem room, by simp [find?_eq_none_iff.mpr mem]⟩
    · exact .inl found
  · rw [findOrAdd_of_full mem (Nat.not_lt.mp room), Option.getD_none]
    exact ⟨h.touch_full (Nat.not_lt.mp room), fun k v found => .inl found⟩

end FirstKeys

end Sorted

namespace Registry

open Sorted

variable {r r' : Registry} {name : String}

/-- The counter a visit of a kind advances, when its point is registered. -/
def counter (r : Registry) : PointKind → String → Option Nat
  | .throughput, name => find? name r.throughput
  | .begin, name => (find? name r.latency).map (·.begins)
  | .finish, name => (find? name r.latency).map (·.ends)

/-- A throughput lookup is the bounded lookup in the throughput table, starting a new point at
zero. -/
theorem getD_throughputPoint : (r.throughputPoint name).getD r =
    { r with throughput := (findOrAdd r.capacity name 0 r.throughput).getD r.throughput } := by
  unfold throughputPoint
  cases findOrAdd r.capacity name 0 r.throughput <;> rfl

/-- A latency lookup is the bounded lookup in the latency table, starting a new point with no
begins and no ends. -/
theorem getD_latencyPoint : (r.latencyPoint name).getD r =
    { r with latency := (findOrAdd r.capacity name ⟨0, 0⟩ r.latency).getD r.latency } := by
  unfold latencyPoint
  cases findOrAdd r.capacity name ⟨0, 0⟩ r.latency <;> rfl

/-- The counts of a latency point after `n` visits of a kind: its begins or its ends advance,
wrapping. -/
def advanceCounts (kind : PointKind) (n : Nat) (v : LatencyCounts) : LatencyCounts :=
  match kind with
  | .begin => { v with begins := Word.addWrap v.begins n }
  | .finish => { v with ends := Word.addWrap v.ends n }
  | .throughput => v

/-- A visit to a begin or an end advances the counts of its latency point, found or created. -/
theorem visit_latency {kind : PointKind} (latency : kind ≠ .throughput) :
    r.visit kind name n = (r.latencyPoint name).map fun r =>
      { r with latency := alter name ⟨0, 0⟩ (advanceCounts kind n) r.latency } := by
  cases kind with
  | throughput => exact absurd rfl latency
  | begin | finish => rfl

end Registry

namespace Snapshot

/-- Every delta of a snapshot read against a registry: the throughput deltas, then the begin and
end deltas of each latency point. -/
def deltas (s : Snapshot) (r : Registry) : List Nat :=
  (s.throughputDeltas r).map (·.delta) ++
    (s.latencyDeltas r).flatMap fun d => [d.beginDelta, d.endDelta]

theorem foldl_keepMin (l : List Nat) (m : Nat) :
    l.foldl (fun m d => some (match m with | some m => min m d | none => d)) (some m) =
      some (l.foldl min m) := by
  induction l generalizing m with
  | nil => rfl
  | cons d rest ih => exact ih (min m d)

/-- The least delta is the minimum of all deltas, none when there is none. -/
theorem minDelta_eq_min? (s : Snapshot) (r : Registry) : s.minDelta r = (s.deltas r).min? := by
  show (s.deltas r).foldl _ none = _
  cases s.deltas r with
  | nil => rfl
  | cons d rest => exact foldl_keepMin rest d

theorem deltas_eq_nil_iff (s : Snapshot) (r : Registry) :
    s.deltas r = [] ↔ s.throughput = [] ∧ s.latency = [] := by
  -- each latency point gives two deltas
  have pairs (l : List LatencyDelta) :
      (l.flatMap fun d => [d.beginDelta, d.endDelta]) = [] ↔ l = [] := by
    cases l <;> simp
  simp only [deltas, List.append_eq_nil_iff, List.map_eq_nil_iff, pairs, throughputDeltas,
    latencyDeltas]

end Snapshot

namespace Script

open Sorted

/-- The name of the throughput point a step looks up or visits. -/
def RegistryStep.throughputName? : RegistryStep → Option String
  | .throughput name => some name
  | .visit .throughput name _ => some name
  | _ => none

/-- The name of the latency point a step looks up or visits. -/
def RegistryStep.latencyName? : RegistryStep → Option String
  | .latency name => some name
  | .visit .begin name _ => some name
  | .visit .finish name _ => some name
  | _ => none

/-- How much a step advances one counter. -/
def RegistryStep.visitsOf (kind : PointKind) (name : String) : RegistryStep → Nat
  | .visit k m n => if k = kind ∧ m = name then n else 0
  | _ => 0

/-- The names a script looks up or visits in the throughput table, in order. -/
def throughputNames (steps : List RegistryStep) : List String :=
  steps.filterMap RegistryStep.throughputName?

/-- The names a script looks up or visits in the latency table, in order. -/
def latencyNames (steps : List RegistryStep) : List String :=
  steps.filterMap RegistryStep.latencyName?

/-- The visits a script makes to one counter: the sum of the counts of its visits of that kind
and name. -/
def visitsTo (kind : PointKind) (name : String) : List RegistryStep → Nat
  | [] => 0
  | step :: rest => step.visitsOf kind name + visitsTo kind name rest

@[simp] theorem throughputNames_singleton (step : RegistryStep) :
    throughputNames [step] = step.throughputName?.toList := by
  cases h : step.throughputName? <;> simp [throughputNames, h]

@[simp] theorem latencyNames_singleton (step : RegistryStep) :
    latencyNames [step] = step.latencyName?.toList := by
  cases h : step.latencyName? <;> simp [latencyNames, h]

theorem throughputNames_append (xs ys : List RegistryStep) :
    throughputNames (xs ++ ys) = throughputNames xs ++ throughputNames ys :=
  List.filterMap_append

theorem latencyNames_append (xs ys : List RegistryStep) :
    latencyNames (xs ++ ys) = latencyNames xs ++ latencyNames ys :=
  List.filterMap_append

theorem visitsTo_append (kind : PointKind) (name : String) (xs ys : List RegistryStep) :
    visitsTo kind name (xs ++ ys) = visitsTo kind name xs + visitsTo kind name ys := by
  induction xs with
  | nil => simp [visitsTo]
  | cons step rest ih => simp [visitsTo, ih, Nat.add_assoc]

/-- The state a script leaves. -/
def RegistryState.runAll (st : RegistryState) (steps : List RegistryStep) : RegistryState :=
  steps.foldl (fun st step => (step.run st).2) st

/-- A fresh registry of capacity `c` with nothing saved. -/
def RegistryState.init (c : Nat) : RegistryState := ⟨Registry.create c, []⟩

/-- Whether a step saves a snapshot. -/
def RegistryStep.isSave : RegistryStep → Bool
  | .save => true
  | _ => false

@[simp] theorem RegistryState.runAll_nil (st : RegistryState) : st.runAll [] = st := rfl

@[simp] theorem RegistryState.runAll_cons (st : RegistryState) (step : RegistryStep)
    (rest : List RegistryStep) : st.runAll (step :: rest) = (step.run st).2.runAll rest := rfl

theorem RegistryState.runAll_append (st : RegistryState) (xs ys : List RegistryStep) :
    st.runAll (xs ++ ys) = (st.runAll xs).runAll ys :=
  List.foldl_append

/-- A save appends the registry's snapshot; no other step touches the snapshots. -/
theorem RegistryStep.saved_run (st : RegistryState) (step : RegistryStep) :
    (step.run st).2.saved = if step.isSave then st.saved ++ [st.registry.save] else st.saved := by
  cases step <;> simp [RegistryStep.run, isSave] <;> split <;> rfl

/-- Steps only ever append snapshots, one for each save. -/
theorem RegistryState.saved_runAll (st : RegistryState) (steps : List RegistryStep) :
    ∃ more, (st.runAll steps).saved = st.saved ++ more ∧
      more.length = steps.countP RegistryStep.isSave := by
  induction steps generalizing st with
  | nil => exact ⟨[], by simp [runAll]⟩
  | cons step rest ih =>
    obtain ⟨more, saved, counted⟩ := ih (step.run st).2
    rw [RegistryStep.saved_run] at saved
    cases save : step.isSave
    · exact ⟨more, by simpa [runAll, save] using saved, by simp [save, counted]⟩
    · refine ⟨st.registry.save :: more, by simpa [runAll, save] using saved, ?_⟩
      simp [save, counted]

/-- The registry a script leaves, from a fresh registry of capacity `c`. -/
def registryAfter (c : Nat) (steps : List RegistryStep) : Registry :=
  ((RegistryState.init c).runAll steps).registry

/-- The snapshot a save appends stays at its place: after as many snapshots as the saves
before it. -/
theorem saved_after_save (c : Nat) (pre post : List RegistryStep) :
    ((RegistryState.init c).runAll (pre ++ .save :: post)).saved[pre.countP RegistryStep.isSave]? =
      some (registryAfter c pre).save := by
  obtain ⟨earlier, before, counted⟩ := (RegistryState.init c).saved_runAll pre
  obtain ⟨later, after, -⟩ := ((RegistryState.init c).runAll (pre ++ [.save])).saved_runAll post
  have saved : ((RegistryState.init c).runAll (pre ++ .save :: post)).saved =
      earlier ++ (registryAfter c pre).save :: later := by
    rw [← List.singleton_append, ← List.append_assoc, RegistryState.runAll_append, after,
      RegistryState.runAll_append, RegistryState.runAll_cons, RegistryState.runAll_nil,
      RegistryStep.saved_run, before]
    simp [RegistryStep.isSave, RegistryState.init, registryAfter]
  rw [saved, ← counted, List.getElem?_append_right (Nat.le_refl _), Nat.sub_self]
  rfl

/-- The fold that answers a script leaves the state `runAll` leaves. -/
theorem state_foldl_answers (steps : List RegistryStep) (answers : List RegistryAnswer)
    (st : RegistryState) :
    (steps.foldl (fun (answers, st) step =>
      let (a, st) := step.run st
      (answers ++ [a], st)) (answers, st)).2 = st.runAll steps := by
  induction steps generalizing answers st with
  | nil => rfl
  | cons step rest ih => exact ih _ _

/-- A script's last answer is its last step's, from the state the steps before it leave. -/
theorem runRegistry_append (c : Nat) (steps : List RegistryStep) (step : RegistryStep) :
    runRegistry c (steps ++ [step]) =
      runRegistry c steps ++ [(step.run ((RegistryState.init c).runAll steps)).1] := by
  unfold runRegistry
  rw [List.foldl_append, ← state_foldl_answers steps [] (RegistryState.init c)]
  rfl

/-- What the registry reached from an empty one of capacity `c` by a script holds, for the names
`T` and `L` the script looked up or visited in the throughput and the latency table and the
visits `V` it made to each counter: each table holds the first `c` distinct names touched in
it, in ascending order, and each counter the visits to it modulo the word. A name never touched
was never visited. -/
structure Tables (c : Nat) (T L : List String) (V : PointKind → String → Nat) (r : Registry) :
    Prop where
  capacity : r.capacity = c
  throughput : FirstKeys c T r.throughput
  latency : FirstKeys c L r.latency
  counts : ∀ kind name v, r.counter kind name = some v → v = V kind name % Word.size
  unvisitedThroughput : ∀ name, name ∉ T → V .throughput name = 0
  unvisitedLatency : ∀ name, name ∉ L → V .begin name = 0 ∧ V .finish name = 0

namespace Tables

variable {c : Nat} {T L : List String} {V : PointKind → String → Nat} {r : Registry}
variable {name : String} {n : Nat}

/-- The counter of a registered throughput point. -/
theorem find?_throughput (h : Tables c T L V r) (mem : name ∈ r.throughput.map Prod.fst) :
    find? name r.throughput = some (V .throughput name % Word.size) := by
  obtain ⟨v, found⟩ := Option.isSome_iff_exists.mp (isSome_find?_iff.mpr mem)
  rw [found, h.counts .throughput name v found]

/-- The counters of a registered latency point. -/
theorem find?_latency (h : Tables c T L V r) (mem : name ∈ r.latency.map Prod.fst) :
    find? name r.latency = some ⟨V .begin name % Word.size, V .finish name % Word.size⟩ := by
  obtain ⟨⟨b, e⟩, found⟩ := Option.isSome_iff_exists.mp (isSome_find?_iff.mpr mem)
  have begins := h.counts .begin name b (by simp [Registry.counter, found])
  have ends := h.counts .finish name e (by simp [Registry.counter, found])
  rw [found, begins, ends]

/-- Looking up a throughput point touches its name and moves no counter. -/
theorem lookupThroughput (h : Tables c T L V r) (name : String) :
    Tables c (T ++ [name]) L V ((r.throughputPoint name).getD r) := by
  obtain ⟨keys, values⟩ := h.throughput.findOrAdd name 0
  rw [Registry.getD_throughputPoint, h.capacity]
  refine ⟨rfl, keys, h.latency, ?_, fun m out =>
    h.unvisitedThroughput m fun t => out (List.mem_append_left _ t), h.unvisitedLatency⟩
  intro kind k v found
  cases kind with
  | throughput =>
    rcases values k v found with old | ⟨rfl, fresh, rfl⟩
    · exact h.counts .throughput k v old
    · -- the new point starts at zero, and its name was never visited
      simp [h.unvisitedThroughput k fresh]
  | begin => exact h.counts .begin k v found
  | finish => exact h.counts .finish k v found

/-- Looking up a latency point touches its name and moves no counter. -/
theorem lookupLatency (h : Tables c T L V r) (name : String) :
    Tables c T (L ++ [name]) V ((r.latencyPoint name).getD r) := by
  obtain ⟨keys, values⟩ := h.latency.findOrAdd name ⟨0, 0⟩
  rw [Registry.getD_latencyPoint, h.capacity]
  refine ⟨rfl, h.throughput, keys, ?_, h.unvisitedThroughput,
    fun m out => h.unvisitedLatency m fun t => out (List.mem_append_left _ t)⟩
  intro kind k v found
  cases kind with
  | throughput => exact h.counts .throughput k v found
  | begin | finish =>
    obtain ⟨counts, looked, rfl⟩ := Option.map_eq_some_iff.mp found
    rcases values k counts looked with old | ⟨rfl, fresh, rfl⟩
    · exact h.counts _ k _ (by simp [Registry.counter, old])
    · -- the new point's begins and ends both start at zero, and its name was never visited
      have zero := h.unvisitedLatency k fresh
      simp [zero.1, zero.2]

/-- Visiting a registered throughput point adds to its counter, wrapping, and to no other. -/
theorem addVisits (h : Tables c T L V r) (mem : name ∈ r.throughput.map Prod.fst) :
    Tables c T L (fun k m => V k m + (RegistryStep.visit .throughput name n).visitsOf k m)
      { r with throughput := alter name 0 (Word.addWrap · n) r.throughput } := by
  have touched : name ∈ T :=
    List.mem_eraseDups.mp (List.mem_of_mem_take ((h.throughput.mem name).mp mem))
  refine ⟨h.capacity, h.throughput.alter_mem mem, h.latency, ?_, ?_, ?_⟩
  · intro kind k v found
    cases kind with
    | throughput =>
      simp only [Registry.counter, find?_alter h.throughput.ascending] at found
      split at found
      · rename_i same
        subst same
        cases found
        simp [h.find?_throughput mem, RegistryStep.visitsOf, Word.addWrap]
      · rename_i other
        simpa [RegistryStep.visitsOf, other] using h.counts .throughput k v found
    | begin => simpa [RegistryStep.visitsOf] using h.counts .begin k v found
    | finish => simpa [RegistryStep.visitsOf] using h.counts .finish k v found
  · intro m out
    have other : name ≠ m := fun same => out (same ▸ touched)
    simpa [RegistryStep.visitsOf, other] using h.unvisitedThroughput m out
  · intro m out
    simpa [RegistryStep.visitsOf] using h.unvisitedLatency m out

/-- Visiting a registered latency point's begins or ends adds to them, wrapping, and to no other
counter. -/
theorem addLatency {kind : PointKind} (h : Tables c T L V r) (latency : kind ≠ .throughput)
    (mem : name ∈ r.latency.map Prod.fst) :
    Tables c T L (fun k m => V k m + (RegistryStep.visit kind name n).visitsOf k m)
      { r with latency := alter name ⟨0, 0⟩ (Registry.advanceCounts kind n) r.latency } := by
  have touched : name ∈ L :=
    List.mem_eraseDups.mp (List.mem_of_mem_take ((h.latency.mem name).mp mem))
  refine ⟨h.capacity, h.throughput, h.latency.alter_mem mem, ?_, ?_, ?_⟩
  · intro counted k v found
    have before := h.counts counted k v
    cases counted with
    | throughput => simpa [RegistryStep.visitsOf, latency] using before found
    | begin | finish =>
      -- at the visited name only the visited counter moves; elsewhere nothing moves
      simp only [Registry.counter, find?_alter h.latency.ascending] at found
      split at found
      · rename_i same
        subst same
        simp only [h.find?_latency mem, Option.getD_some, Option.map_some,
          Option.some.injEq] at found
        cases kind with
        | throughput => exact absurd rfl latency
        | begin | finish =>
          simp [← found, Registry.advanceCounts, RegistryStep.visitsOf, Word.addWrap]
      · rename_i other
        simpa [RegistryStep.visitsOf, other] using before found
  · intro m out
    simpa [RegistryStep.visitsOf, latency] using h.unvisitedThroughput m out
  · intro m out
    have other : name ≠ m := fun same => out (same ▸ touched)
    simpa [RegistryStep.visitsOf, other] using h.unvisitedLatency m out

/-- A visit to a counter with no point moves no registered counter. -/
theorem miss {kind : PointKind} (h : Tables c T L V r) (absent : r.counter kind name = none)
    (inT : kind = .throughput → name ∈ T) (inL : kind ≠ .throughput → name ∈ L) :
    Tables c T L (fun k m => V k m + (RegistryStep.visit kind name n).visitsOf k m) r := by
  refine ⟨h.capacity, h.throughput, h.latency, ?_, ?_, ?_⟩
  · intro k m v found
    have unmoved : (RegistryStep.visit kind name n).visitsOf k m = 0 := by
      simp only [RegistryStep.visitsOf]
      rw [if_neg]
      rintro ⟨rfl, rfl⟩
      rw [absent] at found
      cases found
    rw [unmoved, Nat.add_zero]
    exact h.counts k m v found
  · intro m out
    have unmoved : ¬ (kind = .throughput ∧ name = m) := by
      rintro ⟨rfl, rfl⟩
      exact out (inT rfl)
    simpa [RegistryStep.visitsOf, unmoved] using h.unvisitedThroughput m out
  · intro m out
    have unmoved : ∀ k, k ≠ .throughput → ¬ (kind = k ∧ name = m) := by
      rintro k latency ⟨rfl, rfl⟩
      exact out (inL latency)
    simpa [RegistryStep.visitsOf, unmoved] using h.unvisitedLatency m out

/-- A visit touches its name, and adds to its counter when its point is registered or can be
created. -/
theorem visit (h : Tables c T L V r) (kind : PointKind) (name : String) (n : Nat) :
    Tables c (T ++ throughputNames [.visit kind name n]) (L ++ latencyNames [.visit kind name n])
      (fun k m => V k m + (RegistryStep.visit kind name n).visitsOf k m)
      ((r.visit kind name n).getD r) := by
  have touched (l : List String) : name ∈ l ++ [name] :=
    List.mem_append_right _ (List.mem_singleton_self _)
  -- the visit first looks its point up, then adds to the counter of the point it finds
  cases kind <;> simp only [throughputNames_singleton, latencyNames_singleton,
    RegistryStep.throughputName?, RegistryStep.latencyName?, Option.toList_some,
    Option.toList_none, List.append_nil]
  case throughput =>
    have looked := h.lookupThroughput name
    rw [Registry.getD_throughputPoint] at looked
    cases found : findOrAdd r.capacity name 0 r.throughput with
    | none =>
      rw [found, Option.getD_none] at looked
      simpa [Registry.visit, Registry.throughputPoint, found] using
        looked.miss (show r.counter .throughput name = none from find?_of_findOrAdd_none found)
          (fun _ => touched T) (absurd rfl)
    | some t =>
      rw [found, Option.getD_some] at looked
      simpa [Registry.visit, Registry.throughputPoint, found] using
        looked.addVisits (mem_of_findOrAdd found)
  case begin | finish =>
    have looked := h.lookupLatency name
    rw [Registry.getD_latencyPoint] at looked
    rw [Registry.visit_latency (by decide), Registry.latencyPoint]
    cases found : findOrAdd r.capacity name ⟨0, 0⟩ r.latency with
    | none =>
      rw [found, Option.getD_none] at looked
      have absent := find?_of_findOrAdd_none found
      simp only [Option.map_none, Option.getD_none]
      exact looked.miss (by simp [Registry.counter, absent]) (fun same => by cases same)
        (fun _ => touched L)
    | some t =>
      rw [found, Option.getD_some] at looked
      simpa using looked.addLatency (by decide) (mem_of_findOrAdd found)

variable {st : RegistryState}

/-- One step of a script keeps the tables what its names and visits make them. -/
theorem run (h : Tables c T L V st.registry) (step : RegistryStep) :
    Tables c (T ++ throughputNames [step]) (L ++ latencyNames [step])
      (fun k m => V k m + step.visitsOf k m) (step.run st).2.registry := by
  cases step with
  | throughput name =>
    have after : ((RegistryStep.throughput name).run st).2.registry =
        (st.registry.throughputPoint name).getD st.registry := by
      cases found : st.registry.throughputPoint name <;> simp [RegistryStep.run, found]
    simpa [after, RegistryStep.throughputName?, RegistryStep.latencyName?,
      RegistryStep.visitsOf] using h.lookupThroughput name
  | latency name =>
    have after : ((RegistryStep.latency name).run st).2.registry =
        (st.registry.latencyPoint name).getD st.registry := by
      cases found : st.registry.latencyPoint name <;> simp [RegistryStep.run, found]
    simpa [after, RegistryStep.throughputName?, RegistryStep.latencyName?,
      RegistryStep.visitsOf] using h.lookupLatency name
  | visit kind name n =>
    have after : ((RegistryStep.visit kind name n).run st).2.registry =
        (st.registry.visit kind name n).getD st.registry := by
      cases found : st.registry.visit kind name n <;> simp [RegistryStep.run, found]
    rw [after]
    exact h.visit kind name n
  | isEmpty | save | snapshot _ =>
    simpa [RegistryStep.run, RegistryStep.throughputName?, RegistryStep.latencyName?,
      RegistryStep.visitsOf] using h

/-- A script keeps the tables what its names and visits make them. -/
theorem runAll (h : Tables c T L V st.registry) (steps : List RegistryStep) :
    Tables c (T ++ throughputNames steps) (L ++ latencyNames steps)
      (fun k m => V k m + visitsTo k m steps) (st.runAll steps).registry := by
  induction steps generalizing st T L V with
  | nil => simpa [RegistryState.runAll, visitsTo, throughputNames, latencyNames] using h
  | cons step rest ih =>
    -- the first step, then the rest from the state it leaves
    have rest := ih (h.run step)
    rw [List.append_assoc, List.append_assoc, ← throughputNames_append,
      ← latencyNames_append] at rest
    simpa [RegistryState.runAll, visitsTo, Nat.add_assoc] using rest

end Tables

theorem tables_init (c : Nat) : Tables c [] [] (fun _ _ => 0) (RegistryState.init c).registry :=
  ⟨rfl, firstKeys_nil, firstKeys_nil, fun kind name v found => (by cases kind <;> cases found),
    fun _ _ => rfl, fun _ _ => ⟨rfl, rfl⟩⟩

/-- Every script from a fresh registry of capacity `c` leaves tables holding the first `c`
distinct names it looked up or visited in each, with every counter its visits modulo the word. -/
theorem tables_runAll (c : Nat) (steps : List RegistryStep) :
    Tables c (throughputNames steps) (latencyNames steps) (fun k m => visitsTo k m steps)
      ((RegistryState.init c).runAll steps).registry := by
  simpa using (tables_init c).runAll steps

/-- A throughput lookup finds the registered point, or creates one while the table has room. -/
theorem lookupThroughput_answer (st : RegistryState) (name : String) :
    ((RegistryStep.throughput name).run st).1 = .exists_ (decide
      (name ∈ st.registry.throughput.map Prod.fst ∨
        st.registry.throughput.length < st.registry.capacity)) := by
  have found : (findOrAdd st.registry.capacity name 0 st.registry.throughput).isSome ↔ _ :=
    isSome_findOrAdd_iff
  simp only [RegistryStep.run, Registry.throughputPoint, ← found]
  cases findOrAdd st.registry.capacity name 0 st.registry.throughput <;> rfl

/-- A latency lookup finds the registered point, or creates one while the table has room. -/
theorem lookupLatency_answer (st : RegistryState) (name : String) :
    ((RegistryStep.latency name).run st).1 = .exists_ (decide
      (name ∈ st.registry.latency.map Prod.fst ∨
        st.registry.latency.length < st.registry.capacity)) := by
  have found : (findOrAdd st.registry.capacity name ⟨0, 0⟩ st.registry.latency).isSome ↔ _ :=
    isSome_findOrAdd_iff
  simp only [RegistryStep.run, Registry.latencyPoint, ← found]
  cases findOrAdd st.registry.capacity name ⟨0, 0⟩ st.registry.latency <;> rfl

section Later

variable (c : Nat) (pre post : List RegistryStep)

/-- A throughput point registered after `pre` stays registered after more steps, its counter
advanced by their visits. -/
theorem registered_throughput_later {name : String} {start : Nat}
    (mem : (name, start) ∈ ((RegistryState.init c).runAll pre).registry.throughput) :
    start = visitsTo .throughput name pre % Word.size ∧
      find? name ((RegistryState.init c).runAll (pre ++ post)).registry.throughput =
        some (visitsTo .throughput name (pre ++ post) % Word.size) := by
  have before := tables_runAll c pre
  have after := tables_runAll c (pre ++ post)
  have key : name ∈ ((RegistryState.init c).runAll pre).registry.throughput.map Prod.fst :=
    List.mem_map_of_mem mem
  refine ⟨?_, after.find?_throughput ?_⟩
  · have found := find?_of_mem before.throughput.ascending mem
    rw [before.find?_throughput key] at found
    exact (Option.some.inj found).symm
  · rw [after.throughput.mem, throughputNames_append]
    exact mem_take_eraseDups_append ((before.throughput.mem name).mp key) _

/-- A latency point registered after `pre` stays registered after more steps, its counters
advanced by their visits. -/
theorem registered_latency_later {name : String} {start : LatencyCounts}
    (mem : (name, start) ∈ ((RegistryState.init c).runAll pre).registry.latency) :
    start = ⟨visitsTo .begin name pre % Word.size, visitsTo .finish name pre % Word.size⟩ ∧
      find? name ((RegistryState.init c).runAll (pre ++ post)).registry.latency =
        some ⟨visitsTo .begin name (pre ++ post) % Word.size,
          visitsTo .finish name (pre ++ post) % Word.size⟩ := by
  have before := tables_runAll c pre
  have after := tables_runAll c (pre ++ post)
  have key : name ∈ ((RegistryState.init c).runAll pre).registry.latency.map Prod.fst :=
    List.mem_map_of_mem mem
  refine ⟨?_, after.find?_latency ?_⟩
  · have found := find?_of_mem before.latency.ascending mem
    rw [before.find?_latency key] at found
    exact (Option.some.inj found).symm
  · rw [after.latency.mem, latencyNames_append]
    exact mem_take_eraseDups_append ((before.latency.mem name).mp key) _

/-- Read later, the throughput deltas of a snapshot are the visits since its save. -/
theorem throughputDeltas_since_save :
    ((RegistryState.init c).runAll pre).registry.save.throughputDeltas
        ((RegistryState.init c).runAll (pre ++ .save :: post)).registry =
      ((RegistryState.init c).runAll pre).registry.throughput.map fun e =>
        ⟨e.1, visitsTo .throughput e.1 post % Word.size⟩ := by
  apply List.map_congr_left
  rintro ⟨name, start⟩ mem
  obtain ⟨started, now⟩ := registered_throughput_later c pre (.save :: post) mem
  simp [Registry.visits, now, started, visitsTo_append, visitsTo, RegistryStep.visitsOf,
    Word.subWrap_add_mod]

/-- Read later, the latency deltas of a snapshot are the begins and ends since its save, and its
differences the difference of all begins and ends read as a signed word. -/
theorem latencyDeltas_since_save :
    ((RegistryState.init c).runAll pre).registry.save.latencyDeltas
        ((RegistryState.init c).runAll (pre ++ .save :: post)).registry =
      ((RegistryState.init c).runAll pre).registry.latency.map fun e =>
        ⟨e.1, visitsTo .begin e.1 post % Word.size, visitsTo .finish e.1 post % Word.size,
          Word.toSigned ((((visitsTo .begin e.1 (pre ++ .save :: post) : Nat) : Int) -
            visitsTo .finish e.1 (pre ++ .save :: post)) % Word.size).toNat⟩ := by
  apply List.map_congr_left
  rintro ⟨name, start⟩ mem
  obtain ⟨started, now⟩ := registered_latency_later c pre (.save :: post) mem
  have since (kind : PointKind) : visitsTo kind name (pre ++ .save :: post) =
      visitsTo kind name pre + visitsTo kind name post := by
    simp [visitsTo_append, visitsTo, RegistryStep.visitsOf]
  simp only [Registry.latencyCounts, now, Option.getD_some, started, LatencyDelta.mk.injEq]
  refine ⟨trivial, ?_, ?_, ?_⟩
  · rw [since, Word.subWrap_add_mod]
  · rw [since, Word.subWrap_add_mod]
  · rw [Word.subWrap_mod_mod]

end Later

/-- A progress registry of capacity `c` behaves as two maps from names to wrapping counters,
each holding at most `c` points. After any script `pre`, each kind holds, in ascending name
order, the first `c` distinct names the script looked up or visited in it, and each point's
counters are the visits to it modulo the word; a lookup answers whether its point is registered
or can still be created. The snapshot a save takes after `pre`, read after any further steps
`post`, lists the points registered at the save, throughput before latency; its deltas are the
visits since the save, its differences all begins less all ends as a signed word, and its least
delta is the minimum of its deltas, none exactly when it lists no point. -/
theorem registry_is_two_bounded_maps (c : Nat) (pre post : List RegistryStep) :
    (Ascending (registryAfter c pre).throughput ∧
      ∀ name, name ∈ (registryAfter c pre).throughput.map Prod.fst ↔
        name ∈ (throughputNames pre).eraseDups.take c) ∧
    (Ascending (registryAfter c pre).latency ∧
      ∀ name, name ∈ (registryAfter c pre).latency.map Prod.fst ↔
        name ∈ (latencyNames pre).eraseDups.take c) ∧
    (∀ name, name ∈ (registryAfter c pre).throughput.map Prod.fst →
      find? name (registryAfter c pre).throughput =
        some (visitsTo .throughput name pre % Word.size)) ∧
    (∀ name, name ∈ (registryAfter c pre).latency.map Prod.fst →
      find? name (registryAfter c pre).latency =
        some ⟨visitsTo .begin name pre % Word.size, visitsTo .finish name pre % Word.size⟩) ∧
    (∀ name, runRegistry c (pre ++ [.throughput name]) = runRegistry c pre ++
      [.exists_ (decide (name ∈ (registryAfter c pre).throughput.map Prod.fst ∨
        (registryAfter c pre).throughput.length < c))]) ∧
    (∀ name, runRegistry c (pre ++ [.latency name]) = runRegistry c pre ++
      [.exists_ (decide (name ∈ (registryAfter c pre).latency.map Prod.fst ∨
        (registryAfter c pre).latency.length < c))]) ∧
    ∃ S : Snapshot,
      runRegistry c (pre ++ .save :: post ++ [.snapshot (pre.countP RegistryStep.isSave)]) =
        runRegistry c (pre ++ .save :: post) ++
          [.snapshot (some S) (registryAfter c (pre ++ .save :: post))] ∧
      S.throughput.map Prod.fst = (registryAfter c pre).throughput.map Prod.fst ∧
      S.latency.map Prod.fst = (registryAfter c pre).latency.map Prod.fst ∧
      (S.throughput.map Prod.fst).Pairwise (fun a b => a.toUTF8.toList < b.toUTF8.toList) ∧
      (S.latency.map Prod.fst).Pairwise (fun a b => a.toUTF8.toList < b.toUTF8.toList) ∧
      S.throughputDeltas (registryAfter c (pre ++ .save :: post)) =
        S.throughput.map (fun e => ⟨e.1, visitsTo .throughput e.1 post % Word.size⟩) ∧
      S.latencyDeltas (registryAfter c (pre ++ .save :: post)) =
        S.latency.map (fun e => ⟨e.1, visitsTo .begin e.1 post % Word.size,
          visitsTo .finish e.1 post % Word.size,
          Word.toSigned ((((visitsTo .begin e.1 (pre ++ .save :: post) : Nat) : Int) -
            visitsTo .finish e.1 (pre ++ .save :: post)) % Word.size).toNat⟩) ∧
      (∀ m, S.minDelta (registryAfter c (pre ++ .save :: post)) = some m ↔
        m ∈ S.deltas (registryAfter c (pre ++ .save :: post)) ∧
          ∀ d ∈ S.deltas (registryAfter c (pre ++ .save :: post)), m ≤ d) ∧
      (S.minDelta (registryAfter c (pre ++ .save :: post)) = none ↔
        S.throughput = [] ∧ S.latency = []) := by
  have now := tables_runAll c pre
  refine ⟨⟨now.throughput.ascending, now.throughput.mem⟩,
    ⟨now.latency.ascending, now.latency.mem⟩, fun name => now.find?_throughput,
    fun name => now.find?_latency, fun name => ?_, fun name => ?_, (registryAfter c pre).save, ?_,
    rfl, rfl, (Sorted.ascending_iff_bytes _).mp now.throughput.ascending,
    (Sorted.ascending_iff_bytes _).mp now.latency.ascending,
    throughputDeltas_since_save c pre post, latencyDeltas_since_save c pre post,
    fun m => ?_, ?_⟩
  · rw [runRegistry_append, lookupThroughput_answer, now.capacity]
    rfl
  · rw [runRegistry_append, lookupLatency_answer, now.capacity]
    rfl
  · rw [runRegistry_append]
    simp only [RegistryStep.run, saved_after_save]
    rfl
  · rw [Snapshot.minDelta_eq_min?, List.min?_eq_some_iff]
  · rw [Snapshot.minDelta_eq_min?, List.min?_eq_none_iff, Snapshot.deltas_eq_nil_iff]

end Script

end CausalProfiler
