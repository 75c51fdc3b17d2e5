import CausalProfiler.Proofs.Accounts
import Mathlib.Data.List.Sort
import Mathlib.Data.List.Perm.Subperm
import Mathlib.Data.List.TakeWhile
/-!
# Thread tables hold a set of keys in stable slots

A thread table is read through `keyAt`, the key word of each slot. Linear probing with
tombstones keeps two facts, `Valid`: no key is held by two slots, and no empty slot lies on a held
key's probe before its slot. Lookups stop at the first empty slot, so from these facts:

* `find?_eq_some_iff`: a lookup finds exactly the slot that holds the key;
* `insert_of_held`, `insert_of_absent`: inserting a held key returns its slot; inserting another
  claims the first free slot on its probe, and fails only when every slot holds a key;
* `Valid.insert`, `Valid.remove`, `Valid.modifyValue`: every operation keeps the table valid.
-/
namespace CausalProfiler.ThreadTable

variable {α : Type} {t : ThreadTable α}

/-- The key word of slot `i`; none past the last slot. -/
def keyAt (t : ThreadTable α) (i : Nat) : Option SlotKey := (t.slots[i]?).map Slot.key

/-- A key a table can be asked about: neither of the two reserved words. -/
def Storable (k : Nat) : Prop := k ≠ 0 ∧ k ≠ Word.max

instance : DecidablePred Storable := fun _ => inferInstanceAs (Decidable (_ ∧ _))

/-- The table's shape: it has a slot, no key is held by two slots, and every slot on a held key's
probe before the key's own slot is in use, holding a key or a tombstone. -/
structure Valid (t : ThreadTable α) : Prop where
  nonempty : 0 < t.capacity
  unique : ∀ i j k, t.keyAt i = some (.holds k) → t.keyAt j = some (.holds k) → i = j
  reach : ∀ i k, t.keyAt i = some (.holds k) →
    ∀ j ∈ (t.probe k).takeWhile (· ≠ i), t.keyAt j ≠ some .empty

section Probe

theorem lt_of_mem_probe {k i : Nat} (h : i ∈ t.probe k) : i < t.capacity := by
  simp only [probe, List.mem_map, List.mem_range] at h
  obtain ⟨j, bound, rfl⟩ := h
  exact Nat.mod_lt _ (by omega)

/-- A probe visits every slot. -/
theorem mem_probe (k : Nat) {i : Nat} (h : i < t.capacity) : i ∈ t.probe k := by
  have pos : 0 < t.capacity := by omega
  have start := Nat.mod_lt k pos
  simp only [probe, List.mem_map, List.mem_range]
  refine ⟨(i + t.capacity - k % t.capacity) % t.capacity, Nat.mod_lt _ pos, ?_⟩
  calc (k % t.capacity + (i + t.capacity - k % t.capacity) % t.capacity) % t.capacity
      = (k % t.capacity + (i + t.capacity - k % t.capacity)) % t.capacity := Nat.add_mod_mod _ _ _
    _ = (i + t.capacity) % t.capacity := by rw [Nat.add_sub_cancel' (by omega)]
    _ = i := by rw [Nat.add_mod_right, Nat.mod_eq_of_lt h]

theorem keyAt_isSome {i : Nat} (h : i < t.capacity) : (t.keyAt i).isSome := by
  simp [keyAt, capacity] at h ⊢
  exact h

theorem lt_capacity_of_keyAt {i : Nat} {k : SlotKey} (h : t.keyAt i = some k) : i < t.capacity := by
  simp only [keyAt, Option.map_eq_some_iff] at h
  obtain ⟨s, slot, -⟩ := h
  exact (List.getElem?_eq_some_iff.mp slot).1

end Probe

section Lookup

theorem keyAt_eq_some {i : Nat} {k : SlotKey} :
    t.keyAt i = some k ↔ ∃ v, t.slots[i]? = some ⟨k, v⟩ := by
  simp only [keyAt, Option.map_eq_some_iff]
  constructor
  · rintro ⟨⟨key, v⟩, found, rfl⟩
    exact ⟨v, found⟩
  · rintro ⟨v, found⟩
    exact ⟨_, found, rfl⟩

/-- A lookup of a key that is no reserved word passes every slot before the key's slot that is in
use and holds another key, and stops at the key's slot. -/
theorem find?_go_of_held {k i : Nat} (notMax : k ≠ Word.max) (held : t.keyAt i = some (.holds k)) :
    ∀ l : List Nat, i ∈ l →
      (∀ j ∈ l.takeWhile (· ≠ i), t.keyAt j ≠ some .empty ∧ t.keyAt j ≠ some (.holds k)) →
      find?.go t k l = some i
  | [], mem, _ => absurd mem List.not_mem_nil
  | j :: rest, mem, before => by
    by_cases same : j = i
    · subst same
      obtain ⟨v, found⟩ := keyAt_eq_some.mp held
      simp [find?.go, found, SlotKey.raw]
    · rw [List.takeWhile_cons_of_pos (by simpa using same)] at before
      have passed := before j List.mem_cons_self
      have later : i ∈ rest := (List.mem_cons.mp mem).resolve_left (Ne.symm same)
      have rest_before : ∀ j' ∈ rest.takeWhile (· ≠ i),
          t.keyAt j' ≠ some .empty ∧ t.keyAt j' ≠ some (.holds k) := fun j' mem' =>
        before j' (List.mem_cons_of_mem _ mem')
      rw [find?.go]
      cases slot : t.slots[j]? with
      | none => exact find?_go_of_held notMax held rest later rest_before
      | some s =>
        obtain ⟨key, v⟩ := s
        have notEmpty : key ≠ .empty := fun e => passed.1 (keyAt_eq_some.mpr ⟨v, e ▸ slot⟩)
        have other : key.raw ≠ k := by
          cases key with
          | empty => exact absurd rfl notEmpty
          | tombstone => exact fun e => notMax e.symm
          | holds k' =>
            rintro rfl
            exact passed.2 (keyAt_eq_some.mpr ⟨v, slot⟩)
        cases key with
        | empty => exact absurd rfl notEmpty
        | tombstone =>
          simp only [if_neg other]
          exact find?_go_of_held notMax held rest later rest_before
        | holds k' =>
          simp only [if_neg other]
          exact find?_go_of_held notMax held rest later rest_before

/-- The slot a lookup finds holds the key, unless the key is the tombstone word. -/
theorem keyAt_of_find? {k i : Nat} (found : t.find? k = some i) (notMax : k ≠ Word.max) :
    t.keyAt i = some (.holds k) := by
  obtain ⟨⟨key, v⟩, slot, notEmpty, raw⟩ := find?_go_found t k _ i found
  refine keyAt_eq_some.mpr ⟨v, ?_⟩
  cases key with
  | empty => exact absurd rfl notEmpty
  | tombstone => exact absurd raw.symm notMax
  | holds k' =>
    simp only [SlotKey.raw] at raw
    rw [← raw]
    exact slot

/-- In a valid table a lookup finds exactly the slot that holds the key. -/
theorem find?_eq_some_iff (valid : t.Valid) {k i : Nat} (storable : Storable k) :
    t.find? k = some i ↔ t.keyAt i = some (.holds k) := by
  constructor
  · exact fun found => keyAt_of_find? found storable.2
  · intro held
    refine find?_go_of_held storable.2 held _ (mem_probe k (lt_capacity_of_keyAt held))
      fun j before => ⟨?_, ?_⟩
    · exact valid.reach i k held j before
    · intro other
      have := valid.unique i j k held other
      subst this
      simpa using List.mem_takeWhile_imp before

theorem find?_eq_none {k : Nat} (absent : ∀ i, t.keyAt i ≠ some (.holds k)) (notMax : k ≠ Word.max) :
    t.find? k = none := by
  cases found : t.find? k with
  | none => rfl
  | some i => exact absurd (keyAt_of_find? found notMax) (absent i)

end Lookup

section Claim

theorem keyAt_setKey_self (i : Nat) (k : SlotKey) :
    (t.setKey i k).keyAt i = (t.keyAt i).map fun _ => k := by
  simp only [keyAt, setKey, List.getElem?_modify]
  cases t.slots[i]? <;> rfl

theorem keyAt_setKey_other {i j : Nat} (k : SlotKey) (h : j ≠ i) :
    (t.setKey i k).keyAt j = t.keyAt j := by
  simp only [keyAt, setKey, List.getElem?_modify_ne _ _ (Ne.symm h)]

/-- After a slot's key is set, a slot holds the new key, or what it held before. -/
theorem keyAt_setKey_cases {i j : Nat} {k key : SlotKey} (h : (t.setKey i k).keyAt j = some key) :
    j = i ∧ key = k ∨ j ≠ i ∧ t.keyAt j = some key := by
  by_cases same : j = i
  · subst same
    rw [keyAt_setKey_self] at h
    obtain ⟨_, -, set⟩ := Option.map_eq_some_iff.mp h
    exact .inl ⟨rfl, set.symm⟩
  · exact .inr ⟨same, (keyAt_setKey_other _ same).symm.trans h⟩

/-- Setting a key other than the empty word leaves no slot empty that was not. -/
theorem keyAt_setKey_empty {i j : Nat} {k : SlotKey} (notEmpty : k ≠ .empty)
    (h : (t.setKey i k).keyAt j = some .empty) : t.keyAt j = some .empty := by
  rcases keyAt_setKey_cases h with ⟨-, set⟩ | ⟨-, old⟩
  · exact absurd set.symm notEmpty
  · exact old

@[simp] theorem probe_setKey (i : Nat) (k : SlotKey) (key : Nat) :
    (t.setKey i k).probe key = t.probe key := by
  simp only [probe, capacity_setKey]

@[simp] theorem keyAt_modifyValue (i j : Nat) (f : α → α) :
    (t.modifyValue i f).keyAt j = t.keyAt j := by
  have keys := congrArg (·[j]?) (keys_modifyValue t i f)
  simp only [List.getElem?_map] at keys
  exact keys

@[simp] theorem probe_modifyValue (i : Nat) (f : α → α) (key : Nat) :
    (t.modifyValue i f).probe key = t.probe key := by
  simp only [probe, capacity_modifyValue]

/-- Whether slot `i` may be claimed: it is empty, or a tombstone. -/
def free (t : ThreadTable α) (i : Nat) : Bool :=
  t.keyAt i == some .empty || t.keyAt i == some .tombstone

theorem freeSlot?_eq (t : ThreadTable α) (k : Nat) : t.freeSlot? k = (t.probe k).find? t.free := by
  unfold freeSlot?
  congr 1
  funext i
  simp only [free, keyAt]
  rcases t.slots[i]? with _ | ⟨key, v⟩
  · rfl
  · cases key <;> rfl

/-- A slot that is not free holds a key. -/
theorem holds_of_not_free {i : Nat} (bound : i < t.capacity) (taken : t.free i = false) :
    ∃ k, t.keyAt i = some (.holds k) := by
  obtain ⟨key, slot⟩ := Option.isSome_iff_exists.mp (keyAt_isSome bound)
  cases key with
  | empty => simp [free, slot] at taken
  | tombstone => simp [free, slot] at taken
  | holds k => exact ⟨k, slot⟩

/-- The slot an insert claims is free, and every slot before it on the key's probe holds a key. -/
theorem freeSlot?_some {k i : Nat} (claimed : t.freeSlot? k = some i) :
    t.free i = true ∧ ∀ j ∈ (t.probe k).takeWhile (· ≠ i), ∃ k', t.keyAt j = some (.holds k') := by
  rw [freeSlot?_eq, List.find?_eq_some_iff_append] at claimed
  obtain ⟨isFree, before, after, split, taken⟩ := claimed
  have notFree : ∀ j ∈ before, t.free j = false := fun j mem => by simpa using taken j mem
  have prefix_ : (t.probe k).takeWhile (· ≠ i) = before := by
    rw [split, List.takeWhile_append_of_pos, List.takeWhile_cons_of_neg (by simp), List.append_nil]
    intro j mem
    have : j ≠ i := fun same => by simp [same ▸ notFree j mem] at isFree
    simpa using this
  refine ⟨isFree, fun j mem => ?_⟩
  rw [prefix_] at mem
  exact holds_of_not_free (lt_of_mem_probe (split ▸ List.mem_append_left _ mem)) (notFree j mem)

/-- An insert finds no free slot only when every slot holds a key. -/
theorem freeSlot?_none {k : Nat} (full : t.freeSlot? k = none) {i : Nat} (bound : i < t.capacity) :
    ∃ k', t.keyAt i = some (.holds k') := by
  rw [freeSlot?_eq, List.find?_eq_none] at full
  exact holds_of_not_free bound (by simpa using full i (mem_probe k bound))

theorem lt_capacity_of_freeSlot? {k i : Nat} (claimed : t.freeSlot? k = some i) : i < t.capacity := by
  rw [freeSlot?_eq] at claimed
  exact lt_of_mem_probe (List.mem_of_find?_eq_some claimed)

end Claim

section Operations

theorem Storable.not_reserved {k : Nat} (storable : Storable k) : ¬(k = 0 ∨ k = Nat.pow 2 64 - 1) :=
  not_or.mpr storable

/-- Inserting a held key returns its slot and changes nothing. -/
theorem insert_of_held (valid : t.Valid) {k i : Nat} (storable : Storable k)
    (held : t.keyAt i = some (.holds k)) : t.insert k = .ok (some (i, t)) := by
  unfold ThreadTable.insert
  rw [if_neg storable.not_reserved, (find?_eq_some_iff valid storable).mpr held]

/-- Inserting a key no slot holds claims the first free slot on its probe, if there is one. -/
theorem insert_of_absent {k : Nat} (storable : Storable k)
    (absent : ∀ i, t.keyAt i ≠ some (.holds k)) :
    t.insert k = .ok ((t.freeSlot? k).map fun i => (i, t.setKey i (.holds k))) := by
  unfold ThreadTable.insert
  rw [if_neg storable.not_reserved, find?_eq_none absent storable.2]

/-- Setting a slot that holds no key to a key that no slot holds keeps a table valid, when every
slot before it on the key's probe is in use. -/
theorem Valid.setHolds (valid : t.Valid) {k i : Nat} (absent : ∀ j, t.keyAt j ≠ some (.holds k))
    (unheld : ∀ k', t.keyAt i ≠ some (.holds k'))
    (before : ∀ j ∈ (t.probe k).takeWhile (· ≠ i), t.keyAt j ≠ some .empty) :
    (t.setKey i (.holds k)).Valid := by
  refine ⟨by simpa using valid.nonempty, fun i₁ i₂ k₁ held₁ held₂ => ?_,
    fun i₁ k₁ held₁ j mem empty => ?_⟩
  · rcases keyAt_setKey_cases held₁ with ⟨at₁, key₁⟩ | ⟨other₁, old₁⟩ <;>
      rcases keyAt_setKey_cases held₂ with ⟨at₂, key₂⟩ | ⟨other₂, old₂⟩
    · exact at₁.trans at₂.symm
    · cases key₁
      exact absurd old₂ (absent i₂)
    · cases key₂
      exact absurd old₁ (absent i₁)
    · exact valid.unique i₁ i₂ k₁ old₁ old₂
  · rw [probe_setKey] at mem
    have wasEmpty := keyAt_setKey_empty (by simp) empty
    rcases keyAt_setKey_cases held₁ with ⟨rfl, key₁⟩ | ⟨-, old₁⟩
    · cases key₁
      exact before j mem wasEmpty
    · exact valid.reach i₁ k₁ old₁ j mem wasEmpty

/-- Claiming the first free slot on the probe of a key that no slot holds keeps a table valid. -/
theorem Valid.claim (valid : t.Valid) {k i : Nat} (absent : ∀ j, t.keyAt j ≠ some (.holds k))
    (claimed : t.freeSlot? k = some i) : (t.setKey i (.holds k)).Valid := by
  obtain ⟨isFree, before⟩ := freeSlot?_some claimed
  refine valid.setHolds absent (fun k' held => by simp [free, held] at isFree) fun j mem => ?_
  obtain ⟨k', held⟩ := before j mem
  rw [held]
  simp

/-- Turning any slot into a tombstone keeps a table valid: a tombstone is in use. -/
theorem Valid.tombstone (valid : t.Valid) (i : Nat) : (t.setKey i .tombstone).Valid := by
  have unchanged : ∀ j k, (t.setKey i .tombstone).keyAt j = some (.holds k) →
      t.keyAt j = some (.holds k) := by
    intro j k held
    rcases keyAt_setKey_cases held with ⟨-, set⟩ | ⟨-, old⟩
    · cases set
    · exact old
  refine ⟨by simpa using valid.nonempty, fun i₁ i₂ k held₁ held₂ => ?_,
    fun i₁ k held₁ j mem empty => ?_⟩
  · exact valid.unique i₁ i₂ k (unchanged i₁ k held₁) (unchanged i₂ k held₂)
  · rw [probe_setKey] at mem
    exact valid.reach i₁ k (unchanged i₁ k held₁) j mem (keyAt_setKey_empty (by simp) empty)

theorem Valid.remove (valid : t.Valid) (k : Nat) : (t.remove k).2.Valid := by
  rcases remove_cases t k with same | ⟨i, removed⟩
  · rw [same]
    exact valid
  · rw [removed]
    exact valid.tombstone i

theorem Valid.modifyValue (valid : t.Valid) (i : Nat) (f : α → α) : (t.modifyValue i f).Valid := by
  refine ⟨by simpa using valid.nonempty, fun i₁ i₂ k held₁ held₂ => ?_, fun i₁ k held₁ j mem => ?_⟩
  · rw [keyAt_modifyValue] at held₁ held₂
    exact valid.unique i₁ i₂ k held₁ held₂
  · rw [keyAt_modifyValue] at held₁ ⊢
    rw [probe_modifyValue] at mem
    exact valid.reach i₁ k held₁ j mem

theorem Valid.insert (valid : t.Valid) {k i : Nat} {t' : ThreadTable α} (storable : Storable k)
    (inserted : t.insert k = .ok (some (i, t'))) : t'.Valid := by
  by_cases held : ∃ j, t.keyAt j = some (.holds k)
  · obtain ⟨j, held⟩ := held
    rw [insert_of_held valid storable held] at inserted
    cases inserted
    exact valid
  · have absent : ∀ j, t.keyAt j ≠ some (.holds k) := fun j h => held ⟨j, h⟩
    rw [insert_of_absent storable absent] at inserted
    obtain ⟨j, claimed, same⟩ := Option.map_eq_some_iff.mp (Except.ok.inj inserted)
    cases same
    exact valid.claim absent claimed

end Operations

section Keys

/-- The keys a table holds, each with its slot, in slot order. -/
def heldPairs (t : ThreadTable α) : List (Nat × Nat) :=
  (List.range t.capacity).filterMap fun i => match t.keyAt i with
    | some (.holds k) => some (k, i)
    | _ => none

theorem mem_heldPairs {k i : Nat} : (k, i) ∈ t.heldPairs ↔ t.keyAt i = some (.holds k) := by
  simp only [heldPairs, List.mem_filterMap, List.mem_range]
  constructor
  · rintro ⟨j, -, found⟩
    split at found
    · rename_i k' held
      cases found
      exact held
    · cases found
  · intro held
    exact ⟨i, lt_capacity_of_keyAt held, by rw [held]⟩

theorem heldPairs_pairwise : t.heldPairs.Pairwise fun a b => a.2 < b.2 := by
  refine List.pairwise_lt_range.filterMap _ fun i j lt a found b found' => ?_
  split at found <;> split at found' <;> cases found <;> cases found'
  exact lt

/-- A table holds all its capacity in keys exactly when every slot holds a key. -/
theorem length_heldPairs_eq_iff :
    t.heldPairs.length = t.capacity ↔ ∀ i < t.capacity, ∃ k, t.keyAt i = some (.holds k) := by
  rw [heldPairs, List.length_filterMap_eq_countP]
  conv => lhs; arg 2; rw [← List.length_range (n := t.capacity)]
  rw [List.countP_eq_length]
  refine forall_congr' fun i => ?_
  rw [List.mem_range]
  refine imp_congr_right fun _ => ?_
  constructor
  · intro found
    split at found
    · rename_i k held
      exact ⟨k, held⟩
    · cases found
  · rintro ⟨k, held⟩
    rw [held]
    rfl

/-- Listing a list's elements through `g` is listing its positions, in order. -/
theorem filterMap_eq_range {β γ : Type} (l : List β) (g : β → Option γ) :
    l.filterMap g = (List.range l.length).filterMap fun i => l[i]?.bind g := by
  induction l with
  | nil => rfl
  | cons b l ih =>
    rw [List.length_cons, List.range_succ_eq_map, List.filterMap_cons, List.filterMap_cons,
      List.filterMap_map, ih]
    rfl

/-- The listing of a table is its held keys in slot order, each with its slot's value. -/
theorem entries_eq (t : ThreadTable α) :
    t.entries = t.heldPairs.filterMap fun (k, i) => (t.value? i).map (k, ·) := by
  rw [entries, filterMap_eq_range, heldPairs, List.filterMap_filterMap]
  refine List.filterMap_congr fun i _ => ?_
  cases slot : t.slots[i]? with
  | none => simp [keyAt, slot]
  | some s =>
    obtain ⟨key, v⟩ := s
    cases key <;> simp [keyAt, value?, slot]

end Keys

section History

/-- A call on a thread table: one of its operations, or a write through the reference to a slot's
value that an insert or a lookup handed out. -/
inductive Call (α : Type) where
  | insert (key : Nat)
  | find (key : Nat)
  | remove (key : Nat)
  | size
  | isEmpty
  | entries
  | write (slot : Nat) (f : α → α)

/-- What a call answers. -/
inductive Reply (α : Type) where
  | slot (found : Option Nat)
  | removed (found : Bool)
  | count (n : Nat)
  | empty (b : Bool)
  | listing (entries : List (Nat × α))
  | written

namespace Call

/-- Makes a call on a table. -/
def run (t : ThreadTable α) : Call α → Except Fault (Reply α × ThreadTable α)
  | .insert k => match t.insert k with
    | .error f => .error f
    | .ok none => .ok (.slot none, t)
    | .ok (some (i, t')) => .ok (.slot (some i), t')
  | .find k => .ok (.slot (t.find? k), t)
  | .remove k => .ok (.removed (t.remove k).1, (t.remove k).2)
  | .size => .ok (.count t.size, t)
  | .isEmpty => .ok (.empty (t.size == 0), t)
  | .entries => .ok (.listing t.entries, t)
  | .write i f => .ok (.written, t.modifyValue i f)

/-- A call that names a key names a storable one. -/
def Storable : Call α → Prop
  | .insert k | .find k | .remove k => ThreadTable.Storable k
  | .size | .isEmpty | .entries | .write _ _ => True

instance : DecidablePred (Storable (α := α))
  | .insert k | .find k | .remove k => inferInstanceAs (Decidable (ThreadTable.Storable k))
  | .size | .isEmpty | .entries | .write _ _ => isTrue trivial

/-- The keys inserted and not since removed, each with the slot its insert returned, after a call
answered with a reply: an insert that returned a slot adds its key when it was not there, and a
removal drops its key. -/
def record (K : List (Nat × Nat)) : Call α → Reply α → List (Nat × Nat)
  | .insert k, .slot (some i) => if K.lookup k = none then K ++ [(k, i)] else K
  | .remove k, _ => K.filter (·.1 != k)
  | _, _ => K

/-- The replies a table of `n` slots, holding the keys `K` in their slots, may give: a lookup
finds a key's slot; an insert returns the slot of a held key, and otherwise fails exactly when
`n` keys are held, or claims a slot that no held key has; a removal finds the key; the count is the
number of keys; the listing is the keys in slot order, each with its slot's value. -/
def Allowed (n : Nat) (K : List (Nat × Nat)) (t : ThreadTable α) : Call α → Reply α → Prop
  | .insert k, .slot r => match K.lookup k with
    | some i => r = some i
    | none => (r = none ↔ K.length = n) ∧ ∀ i, r = some i → i < n ∧ ∀ p ∈ K, p.2 ≠ i
  | .find k, .slot r => r = K.lookup k
  | .remove k, .removed b => b = (K.lookup k).isSome
  | .size, .count c => c = K.length
  | .isEmpty, .empty b => b = K.isEmpty
  | .entries, .listing l =>
    l = (K.mergeSort fun a b => a.2 ≤ b.2).filterMap fun (k, i) => (t.value? i).map (k, ·)
  | .write _ _, .written => True
  | _, _ => False

end Call

/-- Each call of the list succeeds with a reply that `Allowed` permits, against the keys that the
calls before it inserted and did not remove. -/
def Agrees (n : Nat) : List (Nat × Nat) → ThreadTable α → List (Call α) → Prop
  | _, _, [] => True
  | K, t, c :: cs => ∃ r t', c.run t = .ok (r, t') ∧ c.Allowed n K t r ∧ Agrees n (c.record K r) t' cs

/-- A table holds exactly the keys `K`, each in the slot `K` gives it, and no key twice. -/
structure Represents (K : List (Nat × Nat)) (t : ThreadTable α) : Prop where
  valid : t.Valid
  keys : (K.map Prod.fst).Nodup
  held : ∀ k i, t.keyAt i = some (.holds k) ↔ (k, i) ∈ K

end History

section Refinement

variable {K : List (Nat × Nat)} {n : Nat}

theorem lookup_eq_some_iff_mem (keys : (K.map Prod.fst).Nodup) {k i : Nat} :
    K.lookup k = some i ↔ (k, i) ∈ K := by
  induction K with
  | nil => simp
  | cons p K ih =>
    obtain ⟨k', i'⟩ := p
    rw [List.map_cons, List.nodup_cons] at keys
    by_cases same : k = k'
    · subst same
      rw [List.lookup_cons_self, Option.some.injEq, List.mem_cons]
      constructor
      · rintro rfl
        exact .inl rfl
      · rintro (found | later)
        · cases found
          rfl
        · exact absurd (List.mem_map_of_mem (f := Prod.fst) later) keys.1
    · simp only [List.lookup_cons, beq_eq_false_iff_ne.mpr same, List.mem_cons, Prod.mk.injEq, same,
        false_and, false_or]
      exact ih keys.2

namespace Represents

theorem lookup (rep : Represents K t) {k i : Nat} :
    K.lookup k = some i ↔ t.keyAt i = some (.holds k) :=
  (lookup_eq_some_iff_mem rep.keys).trans (rep.held k i).symm

theorem absent (rep : Represents K t) {k : Nat} (none_ : K.lookup k = none) :
    ∀ i, t.keyAt i ≠ some (.holds k) := fun i held => by
  rw [← rep.lookup, none_] at held
  cases held

theorem find? (rep : Represents K t) {k : Nat} (storable : Storable k) :
    t.find? k = K.lookup k := by
  cases found : K.lookup k with
  | some i => exact (find?_eq_some_iff rep.valid storable).mpr (rep.lookup.mp found)
  | none => exact find?_eq_none (rep.absent found) storable.2

theorem perm (rep : Represents K t) : t.heldPairs.Perm K := by
  have nodupHeld : t.heldPairs.Nodup := heldPairs_pairwise.imp fun lt same => by
    subst same
    exact Nat.lt_irrefl _ lt
  refine (List.perm_ext_iff_of_nodup nodupHeld (List.Nodup.of_map Prod.fst rep.keys)).mpr ?_
  rintro ⟨k, i⟩
  exact mem_heldPairs.trans (rep.held k i)

/-- Sorted by slot, the keys are the table's held keys. -/
theorem inSlotOrder (rep : Represents K t) : (K.mergeSort fun a b => a.2 ≤ b.2) = t.heldPairs := by
  refine @List.Perm.eq_of_pairwise _ (fun a b => a.2 ≤ b.2) _ _ ?_ ?_
    (heldPairs_pairwise.imp Nat.le_of_lt) ((List.mergeSort_perm _ _).trans rep.perm.symm)
  · rintro ⟨k, i⟩ ⟨k', i'⟩ sorted held below above
    obtain rfl : i = i' := Nat.le_antisymm below above
    have own := (rep.held k i).mpr ((List.mergeSort_perm _ _).mem_iff.mp sorted)
    rw [mem_heldPairs, own] at held
    cases held
    rfl
  · refine (List.pairwise_mergeSort (fun a b c ab bc => ?_) (fun a b => ?_) K).imp fun le => ?_
    · simp only [decide_eq_true_eq] at ab bc ⊢
      omega
    · simp only [Bool.or_eq_true, decide_eq_true_eq]
      omega
    · simpa using le

theorem entries (rep : Represents K t) : t.entries =
    (K.mergeSort fun a b => a.2 ≤ b.2).filterMap fun (k, i) => (t.value? i).map (k, ·) := by
  rw [rep.inSlotOrder, entries_eq]

theorem size (rep : Represents K t) : t.size = K.length := by
  rw [ThreadTable.size, entries_eq, ← rep.perm.length_eq, List.length_filterMap_eq_countP,
    List.countP_eq_length]
  rintro ⟨k, i⟩ mem
  obtain ⟨v, found⟩ := value?_of_lt (lt_capacity_of_keyAt (mem_heldPairs.mp mem))
  simp [found]

theorem full_iff (rep : Represents K t) :
    K.length = t.capacity ↔ ∀ i < t.capacity, ∃ k, t.keyAt i = some (.holds k) := by
  rw [← rep.perm.length_eq]
  exact length_heldPairs_eq_iff

/-- A free slot is held by none of the keys. -/
theorem not_mem_of_free (rep : Represents K t) {i : Nat} (isFree : t.free i = true) :
    ∀ p ∈ K, p.2 ≠ i := by
  rintro ⟨k, j⟩ mem rfl
  have held := (rep.held k j).mpr mem
  simp [free, held] at isFree

theorem insert_absent (rep : Represents K t) (cap : t.capacity = n) {k : Nat}
    (storable : Storable k) (none_ : K.lookup k = none) :
    ∃ r t', (Call.insert k).run t = .ok (r, t') ∧ (Call.insert k).Allowed n K t r ∧
      Represents ((Call.insert k).record K r) t' ∧ t'.capacity = n := by
  have absent := rep.absent none_
  cases claimed : t.freeSlot? k with
  | none =>
    refine ⟨.slot none, t, by simp [Call.run, insert_of_absent storable absent, claimed], ?_,
      rep, cap⟩
    simp only [Call.Allowed, none_, true_iff, reduceCtorEq, false_implies, implies_true, and_true]
    exact cap ▸ rep.full_iff.mpr fun i bound => freeSlot?_none claimed bound
  | some i =>
    obtain ⟨isFree, -⟩ := freeSlot?_some claimed
    have bound := lt_capacity_of_freeSlot? claimed
    have notFull : K.length ≠ n := fun full => by
      obtain ⟨k', held⟩ := rep.full_iff.mp (cap ▸ full) i bound
      simp [free, held] at isFree
    have fresh : k ∉ K.map Prod.fst := fun mem => by
      obtain ⟨⟨k', i'⟩, inK, rfl⟩ := List.mem_map.mp mem
      exact absent i' ((rep.held _ i').mpr inK)
    refine ⟨.slot (some i), t.setKey i (.holds k),
      by simp [Call.run, insert_of_absent storable absent, claimed], ?_, ?_, by simpa using cap⟩
    · simp only [Call.Allowed, none_, reduceCtorEq, false_iff, Option.some.injEq]
      exact ⟨notFull, fun _ same => same ▸ ⟨cap ▸ bound, rep.not_mem_of_free isFree⟩⟩
    · simp only [Call.record, none_, if_pos]
      refine ⟨rep.valid.claim absent claimed, ?_, fun k' j => ?_⟩
      · rw [List.map_append, List.nodup_append]
        refine ⟨rep.keys, by simp, fun a mem b single same => fresh ?_⟩
        simp only [List.map_cons, List.map_nil, List.mem_singleton] at single
        rw [← single, ← same]
        exact mem
      · rw [List.mem_append, List.mem_singleton]
        constructor
        · intro held
          rcases keyAt_setKey_cases held with ⟨rfl, same⟩ | ⟨-, old⟩
          · cases same
            exact .inr rfl
          · exact .inl ((rep.held k' j).mp old)
        · rintro (mem | same)
          · have other : j ≠ i := fun same => rep.not_mem_of_free isFree _ mem same
            rw [keyAt_setKey_other _ other]
            exact (rep.held k' j).mpr mem
          · cases same
            obtain ⟨key, found⟩ := Option.isSome_iff_exists.mp (keyAt_isSome bound)
            rw [keyAt_setKey_self, found]
            rfl

theorem remove (rep : Represents K t) {k : Nat} (storable : Storable k) :
    ∃ r t', (Call.remove k).run t = .ok (r, t') ∧ (Call.remove k).Allowed n K t r ∧
      Represents ((Call.remove k).record K r) t' ∧ t'.capacity = t.capacity := by
  cases found : K.lookup k with
  | none =>
    have unchanged : t.remove k = (false, t) := by
      simp [ThreadTable.remove, rep.find? storable, found]
    have kept : K.filter (·.1 != k) = K := List.filter_eq_self.mpr fun ⟨k', i⟩ mem => by
      have : k' ≠ k := fun same => rep.absent found i ((rep.held k' i).mpr mem ▸ same ▸ rfl)
      simpa using this
    refine ⟨.removed false, t, by simp [Call.run, unchanged], by simp [Call.Allowed, found], ?_, rfl⟩
    simp only [Call.record, kept]
    exact rep
  | some i =>
    have held := rep.lookup.mp found
    have removed : t.remove k = (true, t.setKey i .tombstone) := by
      simp [ThreadTable.remove, rep.find? storable, found]
    refine ⟨.removed true, t.setKey i .tombstone, by simp [Call.run, removed],
      by simp [Call.Allowed, found], ?_, by simp⟩
    refine ⟨rep.valid.tombstone i, ?_, fun k' j => ?_⟩
    · exact List.Nodup.sublist ((List.filter_sublist).map Prod.fst) rep.keys
    · simp only [Call.record, List.mem_filter, bne_iff_ne, ne_eq]
      constructor
      · intro held'
        rcases keyAt_setKey_cases held' with ⟨-, set⟩ | ⟨other, old⟩
        · cases set
        · refine ⟨(rep.held k' j).mp old, fun same => other ?_⟩
          subst same
          exact rep.valid.unique j i k' old held
      · rintro ⟨mem, other⟩
        have old := (rep.held k' j).mpr mem
        have notSlot : j ≠ i := by
          rintro rfl
          rw [held] at old
          cases old
          exact other rfl
        rw [keyAt_setKey_other _ notSlot]
        exact old

/-- One call on a table that represents `K` succeeds with an allowed reply, and leaves a table of
the same capacity that represents the keys recorded after it. -/
theorem call (rep : Represents K t) (cap : t.capacity = n) {c : Call α} (storable : c.Storable) :
    ∃ r t', c.run t = .ok (r, t') ∧ c.Allowed n K t r ∧ Represents (c.record K r) t' ∧
      t'.capacity = n := by
  cases c with
  | insert k =>
    cases found : K.lookup k with
    | none => exact rep.insert_absent cap storable found
    | some i =>
      refine ⟨.slot (some i), t, ?_, by simp [Call.Allowed, found], ?_, cap⟩
      · simp [Call.run, insert_of_held rep.valid storable (rep.lookup.mp found)]
      · simpa [Call.record, found] using rep
  | find k =>
    exact ⟨.slot (t.find? k), t, rfl, by simp [Call.Allowed, rep.find? storable], rep, cap⟩
  | remove k =>
    obtain ⟨r, t', run, allowed, rep', cap'⟩ := rep.remove (n := n) storable
    exact ⟨r, t', run, allowed, rep', cap'.trans cap⟩
  | size => exact ⟨.count t.size, t, rfl, rep.size, rep, cap⟩
  | isEmpty =>
    refine ⟨.empty (t.size == 0), t, rfl, ?_, rep, cap⟩
    show (t.size == 0) = K.isEmpty
    rw [rep.size]
    cases K <;> rfl
  | entries => exact ⟨.listing t.entries, t, rfl, rep.entries, rep, cap⟩
  | write i f =>
    refine ⟨.written, t.modifyValue i f, rfl, trivial, ?_, by simpa using cap⟩
    exact ⟨rep.valid.modifyValue i f, rep.keys, fun k j => by rw [keyAt_modifyValue]; exact rep.held k j⟩

/-- Every sequence of calls with storable keys agrees, by induction on the calls. -/
theorem agrees (rep : Represents K t) (cap : t.capacity = n) (calls : List (Call α))
    (storable : ∀ c ∈ calls, c.Storable) : Agrees n K t calls := by
  induction calls generalizing K t with
  | nil => trivial
  | cons c cs ih =>
    obtain ⟨r, t', run, allowed, rep', cap'⟩ := rep.call cap (storable c List.mem_cons_self)
    exact ⟨r, t', run, allowed, ih rep' cap' fun c' mem => storable c' (List.mem_cons_of_mem _ mem)⟩

end Represents

theorem keyAt_create (n : Nat) (init : α) (i : Nat) :
    (create n init).keyAt i = if i < max n 1 then some .empty else none := by
  simp only [keyAt, create, List.getElem?_replicate]
  split <;> rfl

theorem represents_create (n : Nat) (init : α) : Represents [] (create n init) := by
  have never : ∀ i k, (create n init).keyAt i ≠ some (.holds k) := fun i k held => by
    rw [keyAt_create] at held
    split at held <;> cases held
  refine ⟨⟨by simp [create, capacity], fun i _ k held => absurd held (never i k),
    fun i k held => absurd held (never i k)⟩, List.nodup_nil, fun k i => ?_⟩
  simpa using never i k

/-- **Thread tables refine a bounded key set with stable slots.** On a new table of `n` slots
(`0` counts as `1`), every sequence of calls whose keys are neither reserved word agrees with the
keys inserted and not since removed, each in the slot its insert returned: a lookup finds exactly
those keys, in that slot; an insert of such a key returns that slot, and an insert of another fails
exactly when all `n` slots are held and otherwise claims a slot no such key holds; a removal
succeeds exactly on such a key; the count is their number; and the listing is each of them once,
in slot order, with its slot's value. -/
theorem table_refines_key_set (n : Nat) (init : α) (calls : List (Call α))
    (storable : ∀ c ∈ calls, c.Storable) : Agrees (max n 1) [] (create n init) calls :=
  (represents_create n init).agrees (by simp [create, capacity]) calls storable

/-- Keys 1, 5 and 9 share a home slot among four. Removing 5 leaves a tombstone that the lookup
of 9 passes and the insert of 13 claims, and a full table refuses 17. -/
theorem colliding_keys_agree :
    (∀ c ∈ ([.insert 1, .insert 5, .insert 9, .remove 5, .find 9, .insert 13, .insert 3,
      .insert 17, .entries] : List (Call Nat)), c.Storable) ∧
    Agrees (max 4 1) [] (create 4 0) [.insert 1, .insert 5, .insert 9, .remove 5, .find 9,
      .insert 13, .insert 3, .insert 17, .entries] :=
  ⟨by decide, table_refines_key_set 4 0 _ (by decide)⟩

end Refinement

end CausalProfiler.ThreadTable
