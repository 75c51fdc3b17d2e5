import CausalProfiler.Profiler
/-!
# Delay accounts

The accounts of the thread table's slots and how the profiler's operations move them:

* a slot *holds* a key when a registered thread owns it; changing a slot's value never changes
  which slots hold keys;
* `setAccount` changes one account and nothing else the delay protocol reads;
* during an experiment, reconciling a slot on an exact clock leaves the slot and the global delay
  both at the larger of the two (`reconcile_global`, `reconcile_account_self`).
-/
namespace CausalProfiler

namespace ThreadTable

variable {α : Type}

/-- Slot `i` holds a key: the slot of a registered thread. -/
def Holds (t : ThreadTable α) (i : Nat) : Prop :=
  ∃ s, t.slots[i]? = some s ∧ ∃ k, s.key = .holds k

theorem Holds.lt_capacity {t : ThreadTable α} {i : Nat} (h : t.Holds i) : i < t.capacity := by
  obtain ⟨s, hs, -⟩ := h
  exact (List.getElem?_eq_some_iff.mp hs).1

theorem keys_modifyValue (t : ThreadTable α) (i : Nat) (f : α → α) :
    (t.modifyValue i f).slots.map Slot.key = t.slots.map Slot.key := by
  apply List.ext_getElem?
  intro j
  simp only [modifyValue, List.getElem?_map, List.getElem?_modify]
  cases t.slots[j]? <;> split <;> rfl

@[simp] theorem holds_modifyValue (t : ThreadTable α) (i j : Nat) (f : α → α) :
    (t.modifyValue i f).Holds j ↔ t.Holds j := by
  have keys := congrArg (·[j]?) (keys_modifyValue t i f)
  simp only [List.getElem?_map] at keys
  constructor
  · rintro ⟨s, hs, k, hk⟩
    rw [hs] at keys
    obtain ⟨s', hs', same⟩ := Option.map_eq_some_iff.mp keys.symm
    exact ⟨s', hs', k, same ▸ hk⟩
  · rintro ⟨s, hs, k, hk⟩
    rw [hs] at keys
    obtain ⟨s', hs', same⟩ := Option.map_eq_some_iff.mp keys
    exact ⟨s', hs', k, same ▸ hk⟩

theorem value?_modifyValue (t : ThreadTable α) (i j : Nat) (f : α → α) :
    (t.modifyValue i f).value? j = if i = j then (t.value? j).map f else t.value? j := by
  simp only [value?, modifyValue, List.getElem?_modify]
  split <;> cases t.slots[j]? <;> rfl

/-- The registered threads listed by `entries` are the keys of the slots that hold one, with
those slots' values. -/
theorem mem_entries {t : ThreadTable α} {k : Nat} {v : α} :
    (k, v) ∈ t.entries ↔ ∃ i : Nat, t.slots[i]? = some (⟨.holds k, v⟩ : Slot α) := by
  rw [entries, List.mem_filterMap]
  constructor
  · rintro ⟨⟨key, value⟩, mem, h⟩
    obtain ⟨i, hi⟩ := List.mem_iff_getElem?.mp mem
    cases key <;> simp only [Option.some.injEq, Prod.mk.injEq, reduceCtorEq] at h
    obtain ⟨rfl, rfl⟩ := h
    exact ⟨i, hi⟩
  · rintro ⟨i, hi⟩
    exact ⟨_, List.mem_iff_getElem?.mpr ⟨i, hi⟩, rfl⟩

theorem value?_of_lt {t : ThreadTable α} {i : Nat} (h : i < t.capacity) :
    ∃ v, t.value? i = some v :=
  ⟨t.slots[i].value, by simp [value?, List.getElem?_eq_getElem h]⟩

theorem value?_setKey (t : ThreadTable α) (i j : Nat) (k : SlotKey) :
    (t.setKey i k).value? j = t.value? j := by
  simp only [value?, setKey, List.getElem?_modify]
  split <;> cases t.slots[j]? <;> rfl

@[simp] theorem capacity_setKey (t : ThreadTable α) (i : Nat) (k : SlotKey) :
    (t.setKey i k).capacity = t.capacity := by
  simp [setKey, capacity]

@[simp] theorem capacity_modifyValue (t : ThreadTable α) (i : Nat) (f : α → α) :
    (t.modifyValue i f).capacity = t.capacity := by
  simp [modifyValue, capacity]

/-- Setting a slot's key to a held key makes it hold one; other slots keep theirs. -/
theorem holds_setKey {t : ThreadTable α} {i j : Nat} {k : SlotKey} (h : (t.setKey i k).Holds j) :
    j = i ∨ t.Holds j := by
  by_cases same : j = i
  · exact .inl same
  · obtain ⟨s, hs, key, hk⟩ := h
    have unchanged : t.slots[j]? = some s := by
      simpa only [setKey, List.getElem?_modify_ne _ _ (Ne.symm same)] using hs
    exact .inr ⟨s, unchanged, key, hk⟩

/-- Claiming a slot for a key keeps every held slot held. -/
theorem Holds.setKey_holds {t : ThreadTable α} {i j k : Nat} (h : t.Holds j) :
    (t.setKey i (.holds k)).Holds j := by
  obtain ⟨s, hs, key, hk⟩ := h
  by_cases same : i = j
  · subst same
    exact ⟨{ s with key := .holds k }, by simp [setKey, hs], k, rfl⟩
  · exact ⟨s, by simpa only [setKey, List.getElem?_modify_ne _ _ same] using hs, key, hk⟩

/-- A lookup stops at a slot whose stored word is the key and that is not empty. -/
theorem find?_go_found (t : ThreadTable α) (key : Nat) (probe : List Nat) (i : Nat)
    (h : find?.go t key probe = some i) :
    ∃ s, t.slots[i]? = some s ∧ s.key ≠ .empty ∧ s.key.raw = key := by
  fun_induction find?.go t key probe with
  | case1 | case2 => cases h
  | case3 j rest s notEmpty found raw =>
    cases h
    refine ⟨s, found, fun e => ?_, raw⟩
    obtain ⟨key, value⟩ := s
    simp only at e
    subst e
    exact notEmpty value rfl
  | case4 _ _ _ _ _ _ ih => exact ih h
  | case5 _ _ _ ih => exact ih h

/-- The slot a lookup finds for a key other than the tombstone word holds that key. -/
theorem holds_of_find? {t : ThreadTable α} {key i : Nat} (h : t.find? key = some i)
    (notTombstone : key ≠ Word.max) : t.Holds i := by
  obtain ⟨s, hs, notEmpty, raw⟩ := find?_go_found t key _ i h
  refine ⟨s, hs, key, ?_⟩
  cases hk : s.key with
  | empty => exact absurd hk notEmpty
  | tombstone => rw [hk] at raw; exact absurd raw.symm notTombstone
  | holds k => rw [hk] at raw; simp only [SlotKey.raw] at raw; rw [raw]

/-- Inserting returns the key's slot: one it already held, or a claimed slot now holding it. -/
theorem insert_some {t t' : ThreadTable α} {key i : Nat} (h : t.insert key = .ok (some (i, t'))) :
    i < t.capacity ∧ (t' = t ∨ t' = t.setKey i (.holds key)) := by
  unfold insert at h
  split at h
  · cases h
  · rename_i reserved
    split at h
    · rename_i found
      cases h
      have held := holds_of_find? found (by simp only [not_or] at reserved; exact reserved.2)
      exact ⟨held.lt_capacity, .inl rfl⟩
    · obtain ⟨j, free, hj⟩ := Option.map_eq_some_iff.mp (Except.ok.inj h)
      cases hj
      have mem := List.mem_of_find?_eq_some free
      simp only [probe, List.mem_map, List.mem_range] at mem
      obtain ⟨k, bound, rfl⟩ := mem
      exact ⟨Nat.mod_lt _ (by omega), .inr rfl⟩

theorem remove_cases (t : ThreadTable α) (key : Nat) :
    (t.remove key).2 = t ∨ ∃ i, (t.remove key).2 = t.setKey i .tombstone := by
  unfold remove
  split
  · exact .inr ⟨_, rfl⟩
  · exact .inl rfl

theorem holds_setKey_tombstone {t : ThreadTable α} {i j : Nat} (h : (t.setKey i .tombstone).Holds j) :
    t.Holds j := by
  rcases holds_setKey h with rfl | held
  · obtain ⟨s, hs, k, hk⟩ := h
    simp only [setKey, List.getElem?_modify_eq, Option.map_eq_map, Option.map_eq_some_iff] at hs
    obtain ⟨s', -, rfl⟩ := hs
    cases hk
  · exact held

end ThreadTable

namespace Profiler

variable (p : Profiler) (i : Nat) (f : ThreadDelay → ThreadDelay)

@[simp] theorem global_setAccount : (p.setAccount i f).global = p.global := rfl
@[simp] theorem active_setAccount : (p.setAccount i f).active = p.active := rfl
@[simp] theorem roundStart_setAccount : (p.setAccount i f).roundStart = p.roundStart := rfl
@[simp] theorem cap_setAccount : (p.setAccount i f).cap = p.cap := rfl
@[simp] theorem delaySize_setAccount : (p.setAccount i f).delaySize = p.delaySize := rfl

@[simp] theorem holds_setAccount (j : Nat) :
    (p.setAccount i f).threads.Holds j ↔ p.threads.Holds j :=
  ThreadTable.holds_modifyValue _ _ _ _

theorem account_setAccount (j : Nat) (hi : i < p.threads.capacity) :
    (p.setAccount i f).account j = if j = i then f (p.account i) else p.account j := by
  have present : ∃ d, p.threads.value? i = some d := by
    simp only [ThreadTable.value?, Option.map_eq_some_iff]
    exact ⟨_, _, List.getElem?_eq_getElem hi, rfl⟩
  obtain ⟨d, hd⟩ := present
  simp only [account, setAccount, ThreadTable.value?_modifyValue]
  by_cases hj : j = i
  · subst hj; simp [hd]
  · simp [hj, Ne.symm hj]

theorem account_setAccount_self (hi : i < p.threads.capacity) :
    (p.setAccount i f).account i = f (p.account i) := by
  simp [account_setAccount p i f i hi]

theorem account_setAccount_other {j : Nat} (hj : j ≠ i) :
    (p.setAccount i f).account j = p.account j := by
  simp only [account, setAccount, ThreadTable.value?_modifyValue, Ne.symm hj, ↓reduceIte]

/-- An account after `setAccount` is the old one, or the changed one of the slot set. -/
theorem account_setAccount_cases (j : Nat) :
    (p.setAccount i f).account j = p.account j ∨
      j = i ∧ (p.setAccount i f).account j = f (p.account i) := by
  simp only [account, setAccount, ThreadTable.value?_modifyValue]
  by_cases same : i = j
  · subst same
    cases p.threads.value? i <;> simp
  · simp [same]

/-- The global delay and every account fit the word, as they do in the program. -/
def Words : Prop := p.global < Word.size ∧ ∀ j, (p.account j).paid < Word.size

theorem payment_exact (global own : Nat) : p.payment global own 0 = global - own := by
  simp [payment]

/-- During an experiment, a reconciliation on an exact clock moves the global delay to the
larger of itself and the slot's delay ... -/
theorem reconcile_global (active : p.active = true) :
    (p.reconcile i).global = max p.global (p.account i).paid := by
  simp only [reconcile, addDelays, active, Bool.not_true, Bool.false_eq_true, ↓reduceIte, settle]
  split
  · simp
  · split
    · simp only [global_setAccount]
      omega
    · omega

/-- ... and leaves the slot there too. -/
theorem reconcile_account_self (active : p.active = true) (words : p.global < Word.size)
    (hi : i < p.threads.capacity) :
    ((p.reconcile i).account i).paid = max p.global (p.account i).paid := by
  simp only [reconcile, addDelays, active, Bool.not_true, Bool.false_eq_true, ↓reduceIte, settle]
  split
  · change (p.account i).paid = _
    omega
  · split
    · rw [account_setAccount_self _ _ _ hi, payment_exact]
      simp only [Word.addWrap]
      rw [Nat.add_sub_cancel' (by omega), Nat.mod_eq_of_lt words]
      omega
    · omega

theorem reconcile_account_other {j : Nat} (hj : j ≠ i) (active : p.active = true) :
    (p.reconcile i).account j = p.account j := by
  simp only [reconcile, addDelays, active, Bool.not_true, Bool.false_eq_true, ↓reduceIte, settle]
  split
  · rfl
  · split
    · exact account_setAccount_other _ _ _ hj
    · rfl

@[simp] theorem active_reconcile : (p.reconcile i).active = p.active := by
  simp only [reconcile, addDelays, settle]
  split
  · rfl
  · split
    · rfl
    · split <;> rfl

@[simp] theorem holds_reconcile (j : Nat) :
    (p.reconcile i).threads.Holds j ↔ p.threads.Holds j := by
  simp only [reconcile, addDelays, settle]
  split
  · exact holds_setAccount _ _ _ _
  · split
    · rfl
    · split
      · exact holds_setAccount _ _ _ _
      · rfl

@[simp] theorem capacity_reconcile : (p.reconcile i).threads.capacity = p.threads.capacity := by
  simp only [reconcile, addDelays, settle]
  split
  · simp [setAccount, ThreadTable.modifyValue, ThreadTable.capacity]
  · split
    · rfl
    · split
      · simp [setAccount, ThreadTable.modifyValue, ThreadTable.capacity]
      · rfl

section Operations

variable {p q : Profiler} {i : Nat}

/-- A sample changes the samples and the proposal, and at most charges the sampled slot the
delay size. -/
theorem takeSample_eq (p : Profiler) (i : Nat) (s : Sample) :
    ∃ (charged : Bool) (samples : List Nat) (proposal : Option Nat), p.takeSample i s =
      { (if charged then p.charge i p.delaySize else p) with samples := samples, proposal := proposal } := by
  unfold takeSample
  split
  · exact ⟨false, p.samples, p.proposal, rfl⟩
  · dsimp only
    split
    · split
      · exact ⟨true, _, p.proposal, rfl⟩
      · exact ⟨false, _, p.proposal, rfl⟩
    · exact ⟨false, _, _, rfl⟩

theorem account_charge_self (a : Nat) (hi : i < p.threads.capacity) :
    (p.charge i a).account i = if (p.account i).paid < p.cap
      then { p.account i with paid := min ((p.account i).paid + a) p.cap } else p.account i :=
  account_setAccount_self _ _ _ hi

theorem account_charge_other (a : Nat) {j : Nat} (hj : j ≠ i) : (p.charge i a).account j = p.account j :=
  account_setAccount_other _ _ _ hj

/-- Registering returns the thread's slot, which starts over with the given delay; every other
slot keeps its account, and no slot but this one comes to hold a key. -/
theorem register_some {tid initial : Nat} (h : p.register tid initial = .ok (some i, q)) :
    i < p.threads.capacity ∧ q.global = p.global ∧ q.active = p.active ∧
      q.roundStart = p.roundStart ∧ q.delaySize = p.delaySize ∧ q.cap = p.cap ∧
      q.account i = ⟨initial, 0⟩ ∧ (∀ j, j ≠ i → q.account j = p.account j) ∧
      ∀ j, q.threads.Holds j → j = i ∨ p.threads.Holds j := by
  unfold register at h
  split at h
  · cases h
  · cases h
  · rename_i i' t inserted
    cases h
    obtain ⟨bound, same | claimed⟩ := ThreadTable.insert_some inserted
    all_goals
      subst_vars
      refine ⟨bound, rfl, rfl, rfl, rfl, rfl, ?_, ?_, ?_⟩
    · rw [account, ThreadTable.value?_modifyValue, if_pos rfl]
      obtain ⟨v, hv⟩ := ThreadTable.value?_of_lt bound
      rw [hv]
      rfl
    · intro j hj
      simp [account, ThreadTable.value?_modifyValue, Ne.symm hj]
    · intro j hj
      exact .inr ((ThreadTable.holds_modifyValue _ _ _ _).mp hj)
    · rw [account, ThreadTable.value?_modifyValue, if_pos rfl, ThreadTable.value?_setKey]
      obtain ⟨v, hv⟩ := ThreadTable.value?_of_lt bound
      rw [hv]
      rfl
    · intro j hj
      simp [account, ThreadTable.value?_modifyValue, Ne.symm hj, ThreadTable.value?_setKey]
    · intro j hj
      exact ThreadTable.holds_setKey ((ThreadTable.holds_modifyValue _ _ _ _).mp hj)

/-- Registering keeps every registered thread registered. -/
theorem holds_register {tid initial : Nat} {slot : Option Nat} {j : Nat}
    (h : p.register tid initial = .ok (slot, q)) (held : p.threads.Holds j) : q.threads.Holds j := by
  unfold register at h
  split at h
  · cases h
  · cases h
    exact held
  · rename_i i' t inserted
    cases h
    rw [ThreadTable.holds_modifyValue]
    obtain ⟨-, same | claimed⟩ := ThreadTable.insert_some inserted
    · exact same ▸ held
    · exact claimed ▸ held.setKey_holds

theorem register_none {tid initial : Nat} (h : p.register tid initial = .ok (none, q)) : q = p := by
  unfold register at h
  split at h <;> cases h
  rfl

/-- Unregistering reconciles the thread's slot, then releases it: accounts stay as the
reconciliation left them, and no slot comes to hold a key. -/
theorem unregisterAfter_eq (p : Profiler) (tid overshoot : Nat) :
    p.unregisterAfter tid overshoot = p ∨ ∃ i, p.slot? tid = some i ∧
      ∃ t, (∀ j, t.value? j = (p.addDelays i overshoot).threads.value? j) ∧
        (∀ j, t.Holds j → (p.addDelays i overshoot).threads.Holds j) ∧
        p.unregisterAfter tid overshoot = { p.addDelays i overshoot with threads := t } := by
  unfold unregisterAfter
  split
  · exact .inl rfl
  · rename_i i found
    refine .inr ⟨i, found, _, ?_, ?_, rfl⟩
    · intro j
      rcases ThreadTable.remove_cases (p.addDelays i overshoot).threads tid with same | ⟨k, removed⟩
      · rw [same]
      · rw [removed, ThreadTable.value?_setKey]
    · intro j hj
      rcases ThreadTable.remove_cases (p.addDelays i overshoot).threads tid with same | ⟨k, removed⟩
      · rwa [same] at hj
      · rw [removed] at hj
        exact ThreadTable.holds_setKey_tombstone hj

end Operations

end Profiler

end CausalProfiler
