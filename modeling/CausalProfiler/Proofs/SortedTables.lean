import CausalProfiler.Sorted
/-!
# Key-sorted tables

The tables whose iteration order is the order of their keys are association lists with
ascending keys, changed only by `alter`. Their theory:

* `Sorted.Ascending.alter`: `alter` keeps the keys ascending;
* `Sorted.find?_alter`: in an ascending table, `alter` changes the value at its key, from the
  initial value when the key is new, and no other value;
* `Sorted.mem_keys_alter`, `Sorted.length_alter`: it adds its own key and no other, and grows the
  table by one exactly when that key is new;
* `Sorted.find?_of_mem`, `Sorted.isSome_find?_iff`: a lookup finds the value listed with a key,
  and finds exactly the keys of the table;
* `Sorted.isSome_findOrAdd_iff`: a lookup that adds a new key while the table has room finds an
  entry exactly when the key is there or there is room.
-/
namespace CausalProfiler.Sorted

variable {κ β : Type} [Ord κ]

/-- Keys in strictly ascending order: the order `alter` keeps. -/
def Ascending (l : List (κ × β)) : Prop := l.Pairwise fun a b => compare a.1 b.1 = .lt

/-- An ascending table whose every value satisfies `Q`. -/
structure AscendingWith (Q : β → Prop) (l : List (κ × β)) : Prop where
  ascending : Ascending l
  values : ∀ k v, find? k l = some v → Q v

variable {key key' k : κ} {init v d : β} {f : β → β} {l : List (κ × β)}

theorem ascending_nil : Ascending ([] : List (κ × β)) := List.Pairwise.nil

theorem AscendingWith.nil {Q : β → Prop} : AscendingWith Q ([] : List (κ × β)) :=
  ⟨ascending_nil, fun _ _ found => by cases found⟩

/-- `alter` brings in no key but its own: what is below its key and every key of the table is
below every key after it. -/
theorem lt_of_mem_alter (lt : compare k key = .lt) (above : ∀ e ∈ l, compare k e.1 = .lt) :
    ∀ e ∈ alter key init f l, compare k e.1 = .lt := by
  induction l with
  | nil =>
    intro e he
    rw [List.mem_singleton.mp he]
    exact lt
  | cons e rest ih =>
    obtain ⟨k', v⟩ := e
    have rest_above : ∀ e ∈ rest, compare k e.1 = .lt :=
      fun e he => above e (List.mem_cons_of_mem _ he)
    cases h : compare key k' with
    | lt =>
      simp only [alter, h, List.mem_cons]
      rintro e (rfl | he)
      · exact lt
      · exact above e (List.mem_cons.mpr he)
    | eq =>
      simp only [alter, h, List.forall_mem_cons]
      exact ⟨above (k', v) List.mem_cons_self, rest_above⟩
    | gt =>
      simp only [alter, h, List.forall_mem_cons]
      exact ⟨above (k', v) List.mem_cons_self, ih rest_above⟩

theorem AscendingWith.getD_find? {Q : β → Prop} (h : AscendingWith Q l) (hd : Q d) :
    Q ((find? k l).getD d) := by
  cases found : find? k l with
  | none => exact hd
  | some v => exact h.values k v found

section Trans

variable [Std.TransOrd κ]

/-- A key below the first key of an ascending table is below all of its keys. -/
theorem Ascending.lt_of_lt_head {rest : List (κ × β)} (asc : Ascending ((k, v) :: rest))
    (lt : compare key k = .lt) : ∀ e ∈ (k, v) :: rest, compare key e.1 = .lt := by
  have above := (List.pairwise_cons.mp asc).1
  intro e mem
  rcases List.mem_cons.mp mem with rfl | later
  · exact lt
  · exact Std.TransCmp.lt_trans lt (above e later)

theorem Ascending.alter (asc : Ascending l) : Ascending (alter key init f l) := by
  induction l with
  | nil => exact List.pairwise_singleton _ _
  | cons e rest ih =>
    obtain ⟨k, v⟩ := e
    obtain ⟨head, tail⟩ := List.pairwise_cons.mp asc
    cases h : compare key k with
    | lt =>
      simp only [Sorted.alter, h]
      exact List.Pairwise.cons (asc.lt_of_lt_head h) asc
    | eq =>
      simp only [Sorted.alter, h]
      exact List.Pairwise.cons head tail
    | gt =>
      simp only [Sorted.alter, h]
      exact List.Pairwise.cons (lt_of_mem_alter (Std.OrientedCmp.gt_iff_lt.mp h) head) (ih tail)

end Trans

variable [Std.LawfulEqOrd κ]

/-- `alter` adds its own key to the keys of a table and no other. -/
theorem mem_keys_alter :
    k ∈ (alter key init f l).map Prod.fst ↔ k = key ∨ k ∈ l.map Prod.fst := by
  induction l with
  | nil => simp [alter]
  | cons e rest ih =>
    obtain ⟨k', v⟩ := e
    cases h : compare key k' with
    | lt => simp [alter, h]
    | eq =>
      obtain rfl := Std.LawfulEqCmp.compare_eq_iff_eq.mp h
      simp [alter]
    | gt => simp [alter, h, ih, or_left_comm]

variable [DecidableEq κ]

theorem find?_cons : find? key ((k, v) :: l) = if key = k then some v else find? key l := by
  simp only [find?, Std.LawfulEqCmp.compare_beq_iff_eq]

/-- A key below every key of a table is not in it. -/
theorem find?_eq_none_of_lt (below : ∀ e ∈ l, compare key e.1 = .lt) : find? key l = none := by
  induction l with
  | nil => rfl
  | cons e rest ih =>
    obtain ⟨k, v⟩ := e
    have ne : key ≠ k := by
      intro same
      have lt := below (k, v) List.mem_cons_self
      rw [same, Std.compare_self] at lt
      cases lt
    rw [find?_cons, if_neg ne]
    exact ih fun e he => below e (List.mem_cons_of_mem _ he)

/-- A lookup finds exactly the keys of a table. -/
theorem isSome_find?_iff : (find? k l).isSome ↔ k ∈ l.map Prod.fst := by
  induction l with
  | nil => simp [find?]
  | cons e rest ih =>
    obtain ⟨k', v⟩ := e
    rw [find?_cons]
    by_cases same : k = k'
    · simp [same]
    · simp [same, ih]

theorem find?_eq_none_iff : find? k l = none ↔ k ∉ l.map Prod.fst := by
  rw [← isSome_find?_iff, Option.not_isSome_iff_eq_none]

/-- In an ascending table the lookup of a key finds the value listed with it. -/
theorem find?_of_mem (asc : Ascending l) (mem : (k, v) ∈ l) : find? k l = some v := by
  induction l with
  | nil => cases mem
  | cons e rest ih =>
    obtain ⟨k', v'⟩ := e
    obtain ⟨head, tail⟩ := List.pairwise_cons.mp asc
    rw [find?_cons]
    rcases List.mem_cons.mp mem with same | later
    · cases same
      simp
    · -- a later entry's key is above the first key
      have ne : k ≠ k' := by
        rintro rfl
        have lt := head (k, v) later
        rw [Std.compare_self] at lt
        cases lt
      rw [if_neg ne]
      exact ih tail later

section FindOrAdd

variable {c : Nat} {l' : List (κ × β)}

theorem findOrAdd_of_mem (mem : key ∈ l.map Prod.fst) : findOrAdd c key init l = some l := by
  obtain ⟨v, found⟩ := Option.isSome_iff_exists.mp (isSome_find?_iff.mpr mem)
  simp only [findOrAdd, found]

theorem findOrAdd_of_room (absent : key ∉ l.map Prod.fst) (room : l.length < c) :
    findOrAdd c key init l = some (alter key init id l) := by
  simp only [findOrAdd, find?_eq_none_iff.mpr absent, if_pos room]

theorem findOrAdd_of_full (absent : key ∉ l.map Prod.fst) (full : c ≤ l.length) :
    findOrAdd c key init l = none := by
  simp only [findOrAdd, find?_eq_none_iff.mpr absent, if_neg (Nat.not_lt.mpr full)]

/-- A lookup finds an entry exactly when the key is there or the table has room. -/
theorem isSome_findOrAdd_iff :
    (findOrAdd c key init l).isSome ↔ key ∈ l.map Prod.fst ∨ l.length < c := by
  by_cases mem : key ∈ l.map Prod.fst
  · simp [findOrAdd_of_mem mem, mem]
  by_cases room : l.length < c
  · simp [findOrAdd_of_room mem room, room]
  · simp [findOrAdd_of_full mem (Nat.not_lt.mp room), mem, room]

/-- A lookup that finds an entry leaves the key in the table. -/
theorem mem_of_findOrAdd (found : findOrAdd c key init l = some l') :
    key ∈ l'.map Prod.fst := by
  by_cases mem : key ∈ l.map Prod.fst
  · rw [findOrAdd_of_mem mem] at found
    cases found
    exact mem
  by_cases room : l.length < c
  · rw [findOrAdd_of_room mem room] at found
    cases found
    exact mem_keys_alter.mpr (Or.inl rfl)
  · rw [findOrAdd_of_full mem (Nat.not_lt.mp room)] at found
    cases found

/-- A lookup that finds no entry met a key the table lacks. -/
theorem find?_of_findOrAdd_none (full : findOrAdd c key init l = none) : find? key l = none := by
  rw [find?_eq_none_iff]
  intro mem
  rw [findOrAdd_of_mem mem] at full
  cases full

end FindOrAdd

variable [Std.TransOrd κ]

/-- In an ascending table, `alter` changes the value at its key, from `init` when the key is
new, and no other value. -/
theorem find?_alter (asc : Ascending l) :
    find? key' (alter key init f l) =
      if key = key' then some (f ((find? key l).getD init)) else find? key' l := by
  induction l with
  | nil =>
    by_cases same : key = key'
    · subst same
      simp [alter, find?_cons, find?]
    · simp [alter, find?_cons, same, Ne.symm same, find?]
  | cons e rest ih =>
    obtain ⟨k, v⟩ := e
    obtain ⟨-, tail⟩ := List.pairwise_cons.mp asc
    cases h : compare key k with
    | lt =>
      -- the new key goes in front and was absent
      have absent : find? key ((k, v) :: rest) = none :=
        find?_eq_none_of_lt (asc.lt_of_lt_head h)
      simp only [alter, h]
      rw [absent, find?_cons]
      by_cases same : key = key'
      · subst same
        simp
      · simp [same, Ne.symm same]
    | eq =>
      obtain rfl := Std.LawfulEqCmp.compare_eq_iff_eq.mp h
      simp only [alter, h]
      by_cases same : key = key'
      · subst same
        simp [find?_cons]
      · simp [find?_cons, same, Ne.symm same]
    | gt =>
      have ne : key ≠ k := by
        rintro rfl
        rw [Std.compare_self] at h
        cases h
      simp only [alter, h, find?_cons, ih tail, if_neg ne]
      by_cases here : key' = k
      · subst here
        simp [ne]
      · simp [here]

/-- The value a lookup with a default finds after `alter`. -/
theorem getD_find?_alter (asc : Ascending l) :
    (find? key' (alter key init f l)).getD d =
      if key = key' then f ((find? key l).getD init) else (find? key' l).getD d := by
  rw [find?_alter asc]
  split <;> rfl

/-- `alter` keeps a table ascending with values in `Q`, when `Q` holds of `init` and `f` keeps
it. -/
theorem AscendingWith.alter {Q : β → Prop} (h : AscendingWith Q l) (hinit : Q init)
    (hf : ∀ v, Q v → Q (f v)) : AscendingWith Q (alter key init f l) := by
  refine ⟨h.ascending.alter, fun k' v found => ?_⟩
  rw [find?_alter h.ascending] at found
  split at found
  · cases found
    exact hf _ (h.getD_find? hinit)
  · exact h.values k' v found

/-- In an ascending table `alter` grows the table by one exactly when its key is new. -/
theorem length_alter (asc : Ascending l) :
    (alter key init f l).length = if key ∈ l.map Prod.fst then l.length else l.length + 1 := by
  induction l with
  | nil => simp [alter]
  | cons e rest ih =>
    obtain ⟨k, v⟩ := e
    obtain ⟨-, tail⟩ := List.pairwise_cons.mp asc
    cases h : compare key k with
    | lt =>
      -- below the first key, so below every key
      have absent := find?_eq_none_iff.mp (find?_eq_none_of_lt (asc.lt_of_lt_head h))
      rw [if_neg absent]
      simp [alter, h]
    | eq =>
      obtain rfl := Std.LawfulEqCmp.compare_eq_iff_eq.mp h
      simp [alter]
    | gt =>
      have ne : key ≠ k := by
        rintro rfl
        rw [Std.compare_self] at h
        cases h
      simp only [alter, h, List.length_cons, ih tail, List.map_cons, List.mem_cons, ne, false_or]
      split <;> rfl

end CausalProfiler.Sorted
