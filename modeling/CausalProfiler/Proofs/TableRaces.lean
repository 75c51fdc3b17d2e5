import CausalProfiler.Proofs.TableKeys
import Mathlib.Data.Nat.ModEq
import Mathlib.Logic.Relation
import Mathlib.Logic.Function.Basic
/-!
# Thread tables under concurrent calls

Threads call `insert`, `find` and `remove` on one table at once, and each call is a loop of atomic
steps on the slots' key words. A scan of the key's probe stops at the key or at an empty slot: it
is the whole of a lookup and the first part of an insert and of a removal. An insert whose scan
missed then looks for a free slot and claims it by compare-and-swap, trying again with the word a
failed swap returns. A removal whose scan hit swaps a tombstone in for the key. `Step` interleaves
these steps of any threads, each of which inserts and removes only the keys it owns.

The state records each thread's finished calls with their replies, and each slot's claims and
releases. `Sound` is the invariant: the table is `Valid`; a slot holds a key exactly when the
owner's history gives it that slot (`slotOf`); replaying a slot's claims and releases ends at what
it holds; and `InFlight` says what each unfinished call has seen. `InFlight.frame` carries a call
over the steps of other threads. Main statement: `concurrent_claims_stay_exclusive`.
-/
namespace CausalProfiler.ThreadTable

variable {α : Type}

section Positions

variable {t : ThreadTable α}

theorem nodup_probe (t : ThreadTable α) (k : Nat) : (t.probe k).Nodup := by
  refine List.Nodup.map_on (fun a inRange b inRange' same => ?_) List.nodup_range
  rw [List.mem_range] at inRange inRange'
  exact (Nat.ModEq.add_left_cancel' (k % t.capacity) same).eq_of_lt_of_lt inRange inRange'

/-- On a list without repeats, the elements before the one at position `p` are the first `p`. -/
theorem takeWhile_ne_of_getElem? {l : List Nat} (nodup : l.Nodup) {p i : Nat} (at_ : l[p]? = some i) :
    l.takeWhile (· ≠ i) = l.take p := by
  induction l generalizing p with
  | nil => simp at at_
  | cons a l ih =>
    rw [List.nodup_cons] at nodup
    cases p with
    | zero =>
      simp only [List.getElem?_cons_zero, Option.some.injEq] at at_
      subst at_
      simp
    | succ p =>
      rw [List.getElem?_cons_succ] at at_
      have other : a ≠ i := fun same => nodup.1 (same ▸ List.mem_of_getElem? at_)
      rw [List.takeWhile_cons_of_pos (by simpa using other), List.take_succ_cons, ih nodup.2 at_]

theorem mem_take_of_getElem? {l : List Nat} {q p j : Nat} (before : q < p) (at_ : l[q]? = some j) :
    j ∈ l.take p :=
  List.mem_of_getElem? (by rw [List.getElem?_take_of_lt before]; exact at_)

theorem take_succ_of_getElem? {l : List Nat} {p i : Nat} (at_ : l[p]? = some i) :
    l.take (p + 1) = l.take p ++ [i] := by
  rw [List.take_add_one, at_]
  rfl

/-- A scan of a key that passed only slots in use not holding it, and then met an empty slot or
the end of the probe, shows that no slot holds the key. -/
theorem Valid.absent_of_miss (valid : t.Valid) {k pos : Nat}
    (passed : ∀ j ∈ (t.probe k).take pos, t.keyAt j ≠ some (.holds k))
    (ended : (t.probe k)[pos]? = none ∨ ∃ i, (t.probe k)[pos]? = some i ∧ t.keyAt i = some .empty) :
    ∀ s, t.keyAt s ≠ some (.holds k) := by
  intro s held
  obtain ⟨p, at_⟩ := List.mem_iff_getElem?.mp (mem_probe k (lt_capacity_of_keyAt held))
  rcases Nat.lt_trichotomy p pos with before | rfl | after
  · exact passed s (mem_take_of_getElem? before at_) held
  · rcases ended with none_ | ⟨i, at', empty⟩
    · rw [at_] at none_
      cases none_
    · rw [at_, Option.some.injEq] at at'
      subst at'
      rw [held] at empty
      cases empty
  · rcases ended with none_ | ⟨i, at', empty⟩
    · have short := List.getElem?_eq_none_iff.mp none_
      have long := (List.getElem?_eq_some_iff.mp at_).1
      omega
    · -- the empty slot lies before the key's slot on its probe
      have mem : i ∈ (t.probe k).takeWhile (· ≠ s) := by
        rw [takeWhile_ne_of_getElem? (nodup_probe t k) at_]
        exact mem_take_of_getElem? after at'
      exact valid.reach s k held i mem empty

/-- Setting slot `i` to a word other than `holds k`, where it did not hold `k`, moves no slot of
`k`. -/
theorem keyAt_setKey_holds_iff {i j k : Nat} {key : SlotKey} (other : key ≠ .holds k)
    (unheld : t.keyAt i ≠ some (.holds k)) :
    (t.setKey i key).keyAt j = some (.holds k) ↔ t.keyAt j = some (.holds k) := by
  by_cases same : j = i
  · subst same
    rw [keyAt_setKey_self]
    refine ⟨fun set => ?_, fun held => absurd held unheld⟩
    obtain ⟨_, -, eq⟩ := Option.map_eq_some_iff.mp set
    exact absurd eq other
  · rw [keyAt_setKey_other _ same]

/-- A scan that has passed the slots before position `pos` passes the slot there too. -/
theorem forall_take_succ {P : Nat → Prop} {l : List Nat} {pos i : Nat} (at_ : l[pos]? = some i)
    (passed : ∀ j ∈ l.take pos, P j) (here : P i) : ∀ j ∈ l.take (pos + 1), P j := by
  rw [take_succ_of_getElem? at_]
  intro j mem
  rcases List.mem_append.mp mem with before | last
  · exact passed j before
  · rw [List.mem_singleton.mp last]
    exact here

/-- A word that stores a key other than the reserved words holds that key. -/
theorem holds_of_raw_eq {w : SlotKey} {k : Nat} (storable : Storable k) (same : w.raw = k) :
    w = .holds k := by
  cases w with
  | empty => exact absurd same.symm storable.1
  | tombstone => exact absurd same.symm storable.2
  | holds k' => rw [show k' = k from same]

end Positions

/-- What a scan of a key's probe is for. -/
inductive Op where
  | find
  | insert
  | remove
deriving DecidableEq

/-- The call a scan belongs to. -/
def Op.call : Op → Nat → Call α
  | .find, k => .find k
  | .insert, k => .insert k
  | .remove, k => .remove k

/-- Where a thread's call is. -/
inductive Pc where
  | idle
  /-- Scanning the key's probe at position `pos`. -/
  | scan (op : Op) (key pos : Nat)
  /-- An insert whose scan missed, looking for a free slot at position `pos`. -/
  | seek (key pos : Nat)
  /-- An insert about to swap its key into the slot at position `pos`, which it saw holding `seen`. -/
  | claim (key pos : Nat) (seen : SlotKey)
  /-- A removal about to swap a tombstone into the slot where its scan found the key. -/
  | release (key slot : Nat)

/-- What happened to a slot: a key claimed it, or its key gave it up. -/
inductive SlotEvent where
  | claim (key : Nat)
  | release (key : Nat)
deriving DecidableEq

/-- The table, where each thread is, and the record of what happened. -/
structure Shared (α : Type) where
  table : ThreadTable α
  pc : Nat → Pc
  /-- Each thread's finished calls with their replies, oldest first. -/
  history : Nat → List (Call α × Reply α)
  /-- Each slot's claims and releases, oldest first. -/
  events : Nat → List SlotEvent

namespace Shared

/-- A table before any call. -/
def start (t : ThreadTable α) : Shared α := ⟨t, fun _ => .idle, fun _ => [], fun _ => []⟩

/-- Thread `τ` moves to `p`. -/
def goto (s : Shared α) (τ : Nat) (p : Pc) : Shared α := { s with pc := Function.update s.pc τ p }

/-- Thread `τ` finishes its call `c` with reply `r`. -/
def ret (s : Shared α) (τ : Nat) (c : Call α) (r : Reply α) : Shared α :=
  { s with pc := Function.update s.pc τ .idle,
           history := Function.update s.history τ (s.history τ ++ [(c, r)]) }

/-- Thread `τ` swaps `key` into slot `i`, which records `e`, and finishes its call `c` with reply
`r`. -/
def swap (s : Shared α) (τ : Nat) (c : Call α) (r : Reply α) (i : Nat) (key : SlotKey)
    (e : SlotEvent) : Shared α :=
  { s.ret τ c r with
    table := s.table.setKey i key,
    events := Function.update s.events i (s.events i ++ [e]) }

/-- Thread `τ`'s insert of `k` swaps its key into slot `i`, and returns the slot. -/
def claimSlot (s : Shared α) (τ k i : Nat) : Shared α :=
  s.swap τ (.insert k) (.slot (some i)) i (.holds k) (.claim k)

/-- Thread `τ`'s removal of `k` swaps a tombstone into slot `i`, and succeeds. -/
def releaseSlot (s : Shared α) (τ k i : Nat) : Shared α :=
  s.swap τ (.remove k) (.removed true) i .tombstone (.release k)

/-- Where a scan of thread `τ` goes when it loads its key in slot `i`: a lookup and an insert
return the slot, a removal goes on to release it. -/
def hit (s : Shared α) (τ : Nat) : Op → Nat → Nat → Shared α
  | .find, k, i => s.ret τ (.find k) (.slot (some i))
  | .insert, k, i => s.ret τ (.insert k) (.slot (some i))
  | .remove, k, i => s.goto τ (.release k i)

/-- Where a scan of thread `τ` goes when it loads an empty slot or runs off its probe: a lookup
returns nothing, an insert looks for a free slot, a removal fails. -/
def miss (s : Shared α) (τ : Nat) : Op → Nat → Shared α
  | .find, k => s.ret τ (.find k) (.slot none)
  | .insert, k => s.goto τ (.seek k 0)
  | .remove, k => s.ret τ (.remove k) (.removed false)

end Shared

/-- One atomic step of thread `τ`: a load or a compare-and-swap of one slot's key word. `owner`
names the one thread that inserts and removes each key. -/
inductive Step (owner : Nat → Nat) : Shared α → Shared α → Prop
  /-- An idle thread calls with a key other than the two reserved words, and only inserts or
  removes a key it owns. -/
  | call {s : Shared α} (τ : Nat) (op : Op) (k : Nat) (idle : s.pc τ = .idle)
      (storable : Storable k) (own : op ≠ .find → owner k = τ) :
      Step owner s (s.goto τ (.scan op k 0))
  /-- The scan loads a slot in use holding another word, and moves on. -/
  | pass {s : Shared α} (τ : Nat) (op : Op) (k pos i : Nat) (w : SlotKey)
      (at_ : s.pc τ = .scan op k pos) (slot : (s.table.probe k)[pos]? = some i)
      (word : s.table.keyAt i = some w) (used : w ≠ .empty) (other : w.raw ≠ k) :
      Step owner s (s.goto τ (.scan op k (pos + 1)))
  /-- The scan loads its key. -/
  | hit {s : Shared α} (τ : Nat) (op : Op) (k pos i : Nat) (w : SlotKey)
      (at_ : s.pc τ = .scan op k pos) (slot : (s.table.probe k)[pos]? = some i)
      (word : s.table.keyAt i = some w) (used : w ≠ .empty) (same : w.raw = k) :
      Step owner s (s.hit τ op k i)
  /-- The scan loads an empty slot, or has passed every slot. -/
  | miss {s : Shared α} (τ : Nat) (op : Op) (k pos : Nat) (at_ : s.pc τ = .scan op k pos)
      (ended : (s.table.probe k)[pos]? = none ∨
        ∃ i, (s.table.probe k)[pos]? = some i ∧ s.table.keyAt i = some .empty) :
      Step owner s (s.miss τ op k)
  /-- The search for a free slot loads a slot holding a key, and moves on. -/
  | skip {s : Shared α} (τ k pos i k' : Nat) (at_ : s.pc τ = .seek k pos)
      (slot : (s.table.probe k)[pos]? = some i) (word : s.table.keyAt i = some (.holds k')) :
      Step owner s (s.goto τ (.seek k (pos + 1)))
  /-- The search loads a free slot. -/
  | see {s : Shared α} (τ k pos i : Nat) (w : SlotKey) (at_ : s.pc τ = .seek k pos)
      (slot : (s.table.probe k)[pos]? = some i) (word : s.table.keyAt i = some w)
      (isFree : w = .empty ∨ w = .tombstone) :
      Step owner s (s.goto τ (.claim k pos w))
  /-- The search has passed every slot: the table is full, and the insert returns nothing. -/
  | full {s : Shared α} (τ k pos : Nat) (at_ : s.pc τ = .seek k pos)
      (ended : (s.table.probe k)[pos]? = none) :
      Step owner s (s.ret τ (.insert k) (.slot none))
  /-- The swap finds the word the insert saw, and claims the slot. -/
  | claimed {s : Shared α} (τ k pos i : Nat) (w : SlotKey) (at_ : s.pc τ = .claim k pos w)
      (slot : (s.table.probe k)[pos]? = some i) (word : s.table.keyAt i = some w) :
      Step owner s (s.claimSlot τ k i)
  /-- The swap finds another word: a free one, and the insert tries again with it; a key, and it
  moves on. -/
  | lost {s : Shared α} (τ k pos i : Nat) (w w' : SlotKey) (at_ : s.pc τ = .claim k pos w)
      (slot : (s.table.probe k)[pos]? = some i) (word : s.table.keyAt i = some w')
      (changed : w' ≠ w) :
      Step owner s (s.goto τ
        (if w' = .empty ∨ w' = .tombstone then .claim k pos w' else .seek k (pos + 1)))
  /-- The removal's swap finds the key, and leaves a tombstone. -/
  | released {s : Shared α} (τ k i : Nat) (at_ : s.pc τ = .release k i)
      (word : s.table.keyAt i = some (.holds k)) :
      Step owner s (s.releaseSlot τ k i)
  /-- The removal's swap finds another word, and fails. -/
  | kept {s : Shared α} (τ k i : Nat) (w : SlotKey) (at_ : s.pc τ = .release k i)
      (word : s.table.keyAt i = some w) (changed : w ≠ .holds k) :
      Step owner s (s.ret τ (.remove k) (.removed false))

section Record

/-- Replays a slot's claims and releases from the key holding it, `none` when it is free: a claim
must find the slot free, and a release must give up the key that holds it. The result is the key
holding the slot afterwards, or nothing when an event breaks these rules. -/
def SlotEvent.replay : Option Nat → List SlotEvent → Option (Option Nat)
  | h, [] => some h
  | none, .claim k :: es => replay (some k) es
  | some k, .release k' :: es => if k' = k then replay none es else none
  | _, _ => none

theorem SlotEvent.replay_append (h : Option Nat) (es es' : List SlotEvent) :
    replay h (es ++ es') = (replay h es).bind fun h' => replay h' es' := by
  induction es generalizing h with
  | nil => rfl
  | cons e es ih =>
    cases h with
    | none => cases e <;> simp [replay, ih]
    | some k =>
      cases e with
      | claim k' => rfl
      | release k' => by_cases same : k' = k <;> simp [replay, same, ih]

/-- Between two claims of a slot, the first key releases it. -/
theorem SlotEvent.release_between {h h' : Option Nat} {pre mid post : List SlotEvent} {k k' : Nat}
    (replayed : replay h (pre ++ .claim k :: (mid ++ .claim k' :: post)) = some h') :
    .release k ∈ mid := by
  rw [replay_append] at replayed
  obtain ⟨h₀, -, rest⟩ := Option.bind_eq_some_iff.mp replayed
  by_contra unreleased
  -- the first claim leaves the slot held by `k`, and only a release of `k` frees it
  rcases h₀ with _ | k₀
  · rcases mid with _ | ⟨e, mid⟩
    · cases rest
    · cases e with
      | claim k₁ => cases rest
      | release k₁ =>
        have other : k₁ ≠ k := fun same => unreleased (same ▸ List.mem_cons_self)
        simp [replay, other] at rest
  · cases rest

/-- The key a slot word holds. -/
def holder : Option SlotKey → Option Nat
  | some (.holds k) => some k
  | _ => none

/-- How a finished call moves the slot recorded for key `k`: an insert of `k` records the slot it
returned, a removal of `k` records none. -/
def slotAfter (k : Nat) (slot : Option Nat) : Call α × Reply α → Option Nat
  | (.insert k', .slot found) => if k' = k then found else slot
  | (.remove k', _) => if k' = k then none else slot
  | _ => slot

/-- The slot that the last insert of `k` in a thread's history returned, unless a removal of `k`
came after it. -/
def slotOf (h : List (Call α × Reply α)) (k : Nat) : Option Nat := h.foldl (slotAfter k) none

theorem slotOf_append (h : List (Call α × Reply α)) (e : Call α × Reply α) (k : Nat) :
    slotOf (h ++ [e]) k = slotAfter k (slotOf h k) e := by
  simp [slotOf, List.foldl_append]

/-- An entry of a history that grew by one call is an entry of the old history, or that call. -/
theorem eq_append_singleton_cases {β : Type} {pre post l : List β} {x e : β}
    (h : pre ++ x :: post = l ++ [e]) :
    (pre = l ∧ x = e) ∨ ∃ post', post = post' ++ [e] ∧ l = pre ++ x :: post' := by
  rcases List.eq_nil_or_concat post with rfl | ⟨post', last, rfl⟩
  · obtain ⟨same, single⟩ := List.append_inj' h rfl
    exact .inl ⟨same, List.singleton_inj.mp single⟩
  · rw [List.concat_eq_append, ← List.cons_append, ← List.append_assoc] at h
    obtain ⟨same, single⟩ := List.append_inj' h rfl
    exact .inr ⟨post', by rw [List.singleton_inj.mp single, List.concat_eq_append], same.symm⟩

/-- A history whose lookups of owned keys each returned the slot recorded before them keeps that
when it grows by a call that does too. -/
theorem finds_append {owner : Nat → Nat} {τ : Nat} {h : List (Call α × Reply α)}
    {e : Call α × Reply α}
    (old : ∀ pre k r post, h = pre ++ (.find k, .slot r) :: post → owner k = τ → r = slotOf pre k)
    (new : ∀ k r, e = (.find k, .slot r) → owner k = τ → r = slotOf h k) :
    ∀ pre k r post, h ++ [e] = pre ++ (.find k, .slot r) :: post → owner k = τ →
      r = slotOf pre k := by
  intro pre k r post grown mine
  rcases eq_append_singleton_cases grown.symm with ⟨rfl, last⟩ | ⟨post', -, earlier⟩
  · exact new k r last.symm mine
  · exact old pre k r post' earlier mine

/-- An insert of `k` leaves the slot recorded for `k'` when it returns that slot, if `k' = k`. -/
theorem slotAfter_insert_keeps {k k' : Nat} {found slot : Option Nat} (same : k = k' → found = slot) :
    slotAfter k' slot ((.insert k, .slot found) : Call α × Reply α) = slot := by
  by_cases h : k = k'
  · rw [slotAfter, if_pos h, same h]
  · rw [slotAfter, if_neg h]

/-- A removal of `k` leaves the slot recorded for `k'` when none was, if `k' = k`. -/
theorem slotAfter_remove_keeps {k k' : Nat} {r : Reply α} {slot : Option Nat}
    (unrecorded : k = k' → slot = none) : slotAfter k' slot ((.remove k, r) : Call α × Reply α) = slot := by
  by_cases h : k = k'
  · rw [slotAfter, if_pos h, unrecorded h]
  · rw [slotAfter, if_neg h]

/-- A call that neither inserts nor removes `k` leaves the slot recorded for it. -/
theorem slotAfter_untouched {k : Nat} {slot : Option Nat} {e : Call α × Reply α}
    (untouched : e.1 ≠ .insert k ∧ e.1 ≠ .remove k) : slotAfter k slot e = slot := by
  obtain ⟨c, r⟩ := e
  cases c with
  | insert k' =>
    have other : k' ≠ k := fun same => untouched.1 (by rw [same])
    cases r <;> simp [slotAfter, other]
  | remove k' =>
    have other : k' ≠ k := fun same => untouched.2 (by rw [same])
    simp [slotAfter, other]
  | _ => rfl

theorem slotOf_append_untouched {h mid : List (Call α × Reply α)} {k : Nat}
    (untouched : ∀ e ∈ mid, e.1 ≠ .insert k ∧ e.1 ≠ .remove k) : slotOf (h ++ mid) k = slotOf h k := by
  simp only [slotOf, List.foldl_append]
  generalize h.foldl (slotAfter k) none = slot
  induction mid with
  | nil => rfl
  | cons e mid ih =>
    rw [List.foldl_cons, slotAfter_untouched (untouched e List.mem_cons_self)]
    exact ih fun e' mem => untouched e' (List.mem_cons_of_mem e mem)

end Record

section Invariant

variable {owner : Nat → Nat} {s : Shared α}

/-- What an unfinished call of thread `τ` has seen. A scan of an owned key has passed only slots in
use that do not hold it. A search for a free slot, and a claim, belong to the key's owner, whose
history records no slot for the key, and have passed only slots in use; a claim swaps against a
free word. A release is for an owned key, in the slot that holds it. -/
def InFlight (owner : Nat → Nat) (s : Shared α) (τ : Nat) : Pc → Prop
  | .idle => True
  | .scan op k pos => Storable k ∧ (op ≠ .find → owner k = τ) ∧ (owner k = τ →
      ∀ j ∈ (s.table.probe k).take pos,
        s.table.keyAt j ≠ some .empty ∧ s.table.keyAt j ≠ some (.holds k))
  | .seek k pos => owner k = τ ∧ slotOf (s.history τ) k = none ∧
      ∀ j ∈ (s.table.probe k).take pos, s.table.keyAt j ≠ some .empty
  | .claim k pos w => owner k = τ ∧ slotOf (s.history τ) k = none ∧
      (w = .empty ∨ w = .tombstone) ∧ ∀ j ∈ (s.table.probe k).take pos, s.table.keyAt j ≠ some .empty
  | .release k i => owner k = τ ∧ s.table.keyAt i = some (.holds k)

/-- The invariant of the interleavings. The table is valid; a slot holds a key exactly when the
owner's history records that slot for it; replaying a slot's claims and releases ends at what it
holds; every lookup of an owned key returned the slot recorded before it; and every unfinished
call is `InFlight`. -/
structure Sound (owner : Nat → Nat) (s : Shared α) : Prop where
  valid : s.table.Valid
  held : ∀ k i, slotOf (s.history (owner k)) k = some i ↔ s.table.keyAt i = some (.holds k)
  events : ∀ i, SlotEvent.replay none (s.events i) = some (holder (s.table.keyAt i))
  finds : ∀ τ pre k r post, s.history τ = pre ++ (.find k, .slot r) :: post → owner k = τ →
    r = slotOf pre k
  threads : ∀ τ, InFlight owner s τ (s.pc τ)

/-- An unfinished call of `τ` stays `InFlight` over a step that leaves slots in use in use, moves
none of `τ`'s keys, and leaves `τ`'s history alone. -/
theorem InFlight.frame {t : Shared α} {τ : Nat} {p : Pc} (h : InFlight owner s τ p)
    (probe : ∀ k, t.table.probe k = s.table.probe k)
    (used : ∀ j, s.table.keyAt j ≠ some .empty → t.table.keyAt j ≠ some .empty)
    (own : ∀ k j, owner k = τ →
      (t.table.keyAt j = some (.holds k) ↔ s.table.keyAt j = some (.holds k)))
    (history : t.history τ = s.history τ) : InFlight owner t τ p := by
  cases p with
  | idle => trivial
  | scan op k pos =>
    obtain ⟨storable, owns, passed⟩ := h
    refine ⟨storable, owns, fun mine j mem => ?_⟩
    rw [probe] at mem
    obtain ⟨inUse, other⟩ := passed mine j mem
    exact ⟨used j inUse, fun held => other ((own k j mine).mp held)⟩
  | seek k pos =>
    obtain ⟨mine, none_, passed⟩ := h
    exact ⟨mine, by rw [history]; exact none_, fun j mem => used j (passed j (probe k ▸ mem))⟩
  | claim k pos w =>
    obtain ⟨mine, none_, isFree, passed⟩ := h
    exact ⟨mine, by rw [history]; exact none_, isFree,
      fun j mem => used j (passed j (probe k ▸ mem))⟩
  | release k i =>
    obtain ⟨mine, held⟩ := h
    exact ⟨mine, (own k i mine).mpr held⟩

/-- A step that only changes what thread `τ` reads keeps everything else. -/
theorem InFlight.unmoved {t : Shared α} {τ : Nat} {p : Pc} (h : InFlight owner s τ p)
    (table : t.table = s.table) (history : t.history τ = s.history τ) : InFlight owner t τ p :=
  h.frame (by simp [table]) (by simp [table]) (by simp [table]) history

/-- The slot recorded for a key of `τ` after `τ` finishes a call. -/
theorem slotOf_ret_self {τ k : Nat} {c : Call α} {r : Reply α} (mine : owner k = τ) :
    slotOf ((s.ret τ c r).history (owner k)) k = slotAfter k (slotOf (s.history (owner k)) k) (c, r) := by
  simp only [Shared.ret, mine, Function.update_self, slotOf_append]

/-- A finished call that leaves the slot recorded for `k` when its owner makes it leaves every
history's record of `k`. -/
theorem slotOf_ret_of_keeps {τ k : Nat} {c : Call α} {r : Reply α}
    (keeps : owner k = τ → slotAfter k (slotOf (s.history τ) k) (c, r) = slotOf (s.history τ) k) :
    slotOf ((s.ret τ c r).history (owner k)) k = slotOf (s.history (owner k)) k := by
  by_cases mine : owner k = τ
  · rw [slotOf_ret_self mine, mine]
    exact keeps mine
  · simp only [Shared.ret, Function.update_of_ne mine]

/-- The lookups of owned keys stay right when thread `τ` finishes a call that, as a lookup of an
owned key, returns the recorded slot. -/
theorem Sound.finds_ret (h : Sound owner s) {τ : Nat} {c : Call α} {r : Reply α}
    (found : ∀ k r', (c, r) = (.find k, .slot r') → owner k = τ → r' = slotOf (s.history τ) k)
    (τ' : Nat) : ∀ pre k r' post, (s.ret τ c r).history τ' = pre ++ (.find k, .slot r') :: post →
      owner k = τ' → r' = slotOf pre k := by
  by_cases same : τ' = τ
  · subst same
    simp only [Shared.ret, Function.update_self]
    exact finds_append (h.finds τ') found
  · simp only [Shared.ret, Function.update_of_ne same]
    exact h.finds τ'

/-- When thread `τ` moves to `p`, where it is `InFlight`, and the step is a frame for every other
thread, every thread stays `InFlight`. -/
theorem threads_update {t : Shared α} {τ : Nat} {p : Pc} (h : ∀ τ', InFlight owner s τ' (s.pc τ'))
    (pc : t.pc = Function.update s.pc τ p) (here : InFlight owner t τ p)
    (others : ∀ τ', τ' ≠ τ → InFlight owner s τ' (s.pc τ') → InFlight owner t τ' (s.pc τ')) :
    ∀ τ', InFlight owner t τ' (t.pc τ') := by
  intro τ'
  rw [pc]
  by_cases same : τ' = τ
  · subst same
    rw [Function.update_self]
    exact here
  · rw [Function.update_of_ne same]
    exact others τ' same (h τ')

/-- An unfinished call of `τ` stays `InFlight` when a word other than empty is swapped into a
slot, and neither that word nor the slot's old one is a key of `τ`. -/
theorem InFlight.setKey {t : Shared α} {τ i : Nat} {key : SlotKey} {p : Pc}
    (h : InFlight owner s τ p) (table : t.table = s.table.setKey i key) (notEmpty : key ≠ .empty)
    (foreign : ∀ k, owner k = τ → key ≠ .holds k ∧ s.table.keyAt i ≠ some (.holds k))
    (history : t.history τ = s.history τ) : InFlight owner t τ p := by
  refine h.frame (fun k => by rw [table, probe_setKey]) (fun j inUse empty => ?_)
    (fun k j mine => ?_) history
  · rw [table] at empty
    exact inUse (keyAt_setKey_empty notEmpty empty)
  · rw [table]
    exact keyAt_setKey_holds_iff (foreign k mine).1 (foreign k mine).2

theorem Sound.goto (h : Sound owner s) {τ : Nat} {p : Pc} (flight : InFlight owner s τ p) :
    Sound owner (s.goto τ p) :=
  ⟨h.valid, h.held, h.events, h.finds,
    threads_update h.threads rfl (flight.unmoved rfl rfl) fun _ _ other => other.unmoved rfl rfl⟩

/-- Thread `τ` finishing a call that moves no recorded slot of its keys, and that as a lookup of an
owned key returns the recorded slot, keeps the invariant. -/
theorem Sound.ret (h : Sound owner s) {τ : Nat} {c : Call α} {r : Reply α}
    (keeps : ∀ k, owner k = τ → slotAfter k (slotOf (s.history τ) k) (c, r) = slotOf (s.history τ) k)
    (found : ∀ k r', (c, r) = (.find k, .slot r') → owner k = τ → r' = slotOf (s.history τ) k) :
    Sound owner (s.ret τ c r) := by
  refine ⟨h.valid, fun k i => ?_, h.events, h.finds_ret found, threads_update h.threads rfl trivial
    fun τ' same other => other.unmoved rfl (Function.update_of_ne same _ _)⟩
  rw [slotOf_ret_of_keeps (keeps k)]
  exact h.held k i

/-- Thread `τ` swapping a word other than empty into slot `i` and finishing a call that is not a
lookup keeps the invariant, when the new table is valid, holds each key where the histories put
it, and ends the slot's replay, and neither the old nor the new word is another thread's key. -/
theorem Sound.swap (h : Sound owner s) {τ i : Nat} {c : Call α} {r : Reply α} {key : SlotKey}
    {e : SlotEvent} (valid : (s.table.setKey i key).Valid)
    (held : ∀ k j, slotOf ((s.ret τ c r).history (owner k)) k = some j ↔
      (s.table.setKey i key).keyAt j = some (.holds k))
    (replayed : SlotEvent.replay (holder (s.table.keyAt i)) [e] =
      some (holder ((s.table.setKey i key).keyAt i)))
    (notFind : ∀ k r', (c, r) ≠ (.find k, .slot r')) (notEmpty : key ≠ .empty)
    (foreign : ∀ k, owner k ≠ τ → key ≠ .holds k ∧ s.table.keyAt i ≠ some (.holds k)) :
    Sound owner (s.swap τ c r i key e) := by
  refine ⟨valid, held, fun j => ?_, h.finds_ret fun k r' same _ => absurd same (notFind k r'),
    threads_update h.threads rfl trivial fun τ' same other => ?_⟩
  · -- only slot `i`'s record grows, by one event
    by_cases at_ : j = i
    · subst at_
      simp only [Shared.swap, Function.update_self]
      rw [SlotEvent.replay_append, h.events j]
      exact replayed
    · simp only [Shared.swap, Function.update_of_ne at_, keyAt_setKey_other key at_]
      exact h.events j
  · refine other.setKey rfl notEmpty (fun k mine => foreign k ?_) (Function.update_of_ne same _ _)
    rw [mine]
    exact same

/-- The owner of `k` swapping `k` into a free slot `i` at position `pos` of its probe keeps the
invariant, when its history records no slot for `k` and the slots before `i` are in use. -/
theorem Sound.claimSlot (h : Sound owner s) {τ k pos i : Nat} {w : SlotKey} (mine : owner k = τ)
    (unrecorded : slotOf (s.history τ) k = none) (isFree : w = .empty ∨ w = .tombstone)
    (passed : ∀ j ∈ (s.table.probe k).take pos, s.table.keyAt j ≠ some .empty)
    (slot : (s.table.probe k)[pos]? = some i) (word : s.table.keyAt i = some w) :
    Sound owner (s.claimSlot τ k i) := by
  have absent : ∀ j, s.table.keyAt j ≠ some (.holds k) := fun j held => by
    have recorded := (h.held k j).mpr held
    rw [mine, unrecorded] at recorded
    cases recorded
  have unheld : ∀ k', s.table.keyAt i ≠ some (.holds k') := fun k' held => by
    rw [word, Option.some.injEq] at held
    rcases isFree with rfl | rfl <;> cases held
  have before : ∀ j ∈ (s.table.probe k).takeWhile (· ≠ i), s.table.keyAt j ≠ some .empty := by
    rw [takeWhile_ne_of_getElem? (nodup_probe _ k) slot]
    exact passed
  refine h.swap (h.valid.setHolds absent unheld before) (fun k' j => ?_) ?_
    (fun _ _ same => by cases same) (by simp) fun k' other => ⟨fun same => ?_, unheld k'⟩
  · by_cases same : k = k'
    · -- the claimed key is now held by exactly slot `i`
      subst same
      rw [slotOf_ret_self mine, slotAfter, if_pos rfl, Option.some.injEq]
      constructor
      · rintro rfl
        rw [keyAt_setKey_self, word]
        rfl
      · intro held
        rcases keyAt_setKey_cases held with ⟨at_, -⟩ | ⟨-, old⟩
        · exact at_.symm
        · exact absurd old (absent j)
    · rw [slotOf_ret_of_keeps fun _ => slotAfter_insert_keeps (absurd · same), h.held,
        keyAt_setKey_holds_iff (by simpa using same) (unheld k')]
  · rw [keyAt_setKey_self, word]
    rcases isFree with rfl | rfl <;> rfl
  · cases same
    exact other mine

/-- The owner of `k` swapping a tombstone in for `k` in the slot that holds it keeps the invariant. -/
theorem Sound.releaseSlot (h : Sound owner s) {τ k i : Nat} (mine : owner k = τ)
    (word : s.table.keyAt i = some (.holds k)) : Sound owner (s.releaseSlot τ k i) := by
  refine h.swap (h.valid.tombstone i) (fun k' j => ?_) ?_ (fun _ _ same => by cases same)
    (by simp) fun k' other => ⟨by simp, fun held => ?_⟩
  · by_cases same : k = k'
    · -- the released key is held by no slot
      subst same
      rw [slotOf_ret_self mine, slotAfter, if_pos rfl]
      refine iff_of_false (by simp) fun held => ?_
      rcases keyAt_setKey_cases held with ⟨-, set⟩ | ⟨other, old⟩
      · cases set
      · exact other (h.valid.unique j i k old word)
    · have unheld : s.table.keyAt i ≠ some (.holds k') := by
        rw [word]
        simpa using same
      rw [slotOf_ret_of_keeps fun _ => slotAfter_remove_keeps (absurd · same), h.held,
        keyAt_setKey_holds_iff (by simp) unheld]
  · rw [keyAt_setKey_self, word]
    simp [holder, SlotEvent.replay]
  · rw [word, Option.some.injEq, SlotKey.holds.injEq] at held
    subst held
    exact other mine

/-- A scan of thread `τ` that loads its key in slot `i` keeps the invariant. -/
theorem Sound.hit (h : Sound owner s) {τ k pos i : Nat} {op : Op}
    (flight : InFlight owner s τ (.scan op k pos)) (word : s.table.keyAt i = some (.holds k)) :
    Sound owner (s.hit τ op k i) := by
  obtain ⟨-, owns, -⟩ := flight
  have recorded : owner k = τ → slotOf (s.history τ) k = some i := fun mine => by
    rw [← mine]
    exact (h.held k i).mpr word
  cases op with
  | find =>
    refine h.ret (fun _ _ => rfl) fun k' r' same mine => ?_
    cases same
    exact (recorded mine).symm
  | insert =>
    have mine := owns (by decide)
    refine h.ret (fun k' _ => slotAfter_insert_keeps fun same => ?_) (fun _ _ same => by cases same)
    subst same
    exact (recorded mine).symm
  | remove => exact h.goto ⟨owns (by decide), word⟩

/-- A scan of thread `τ` that meets an empty slot or the end of its probe keeps the invariant. -/
theorem Sound.miss (h : Sound owner s) {τ k pos : Nat} {op : Op}
    (flight : InFlight owner s τ (.scan op k pos))
    (ended : (s.table.probe k)[pos]? = none ∨
      ∃ i, (s.table.probe k)[pos]? = some i ∧ s.table.keyAt i = some .empty) :
    Sound owner (s.miss τ op k) := by
  obtain ⟨-, owns, passed⟩ := flight
  -- a missed scan of an owned key shows that its owner's history records no slot for it
  have unrecorded : owner k = τ → slotOf (s.history τ) k = none := fun mine => by
    have absent := h.valid.absent_of_miss (fun j mem => (passed mine j mem).2) ended
    cases recorded : slotOf (s.history τ) k with
    | none => rfl
    | some j =>
      rw [← mine] at recorded
      exact absurd ((h.held k j).mp recorded) (absent j)
  cases op with
  | find =>
    refine h.ret (fun _ _ => rfl) fun k' r' same mine => ?_
    cases same
    exact (unrecorded mine).symm
  | insert =>
    have mine := owns (by decide)
    exact h.goto ⟨mine, unrecorded mine, by simp⟩
  | remove =>
    have mine := owns (by decide)
    refine h.ret (fun k' _ => slotAfter_remove_keeps fun same => ?_) (fun _ _ same => by cases same)
    subst same
    exact unrecorded mine

/-- What the invariant says of the call thread `τ` is in. -/
theorem Sound.flight (h : Sound owner s) {τ : Nat} {p : Pc} (at_ : s.pc τ = p) :
    InFlight owner s τ p := by
  have flight := h.threads τ
  rw [at_] at flight
  exact flight

/-- Every step keeps the invariant. -/
theorem Sound.step (h : Sound owner s) {t : Shared α} (step : Step owner s t) : Sound owner t := by
  cases step with
  | call τ op k idle storable own => exact h.goto ⟨storable, own, by simp⟩
  | pass τ op k pos i w at_ slot word used other =>
    obtain ⟨storable, owns, passed⟩ := h.flight at_
    refine h.goto ⟨storable, owns, fun mine => forall_take_succ slot (passed mine) ?_⟩
    rw [word]
    refine ⟨fun same => used (Option.some.inj same), fun same => other ?_⟩
    rw [Option.some.inj same]
    rfl
  | hit τ op k pos i w at_ slot word used same =>
    have flight := h.flight at_
    rw [holds_of_raw_eq flight.1 same] at word
    exact h.hit flight word
  | miss τ op k pos at_ ended => exact h.miss (h.flight at_) ended
  | skip τ k pos i k' at_ slot word =>
    obtain ⟨mine, unrecorded, passed⟩ := h.flight at_
    exact h.goto ⟨mine, unrecorded, forall_take_succ slot passed (by simp [word])⟩
  | see τ k pos i w at_ slot word isFree =>
    obtain ⟨mine, unrecorded, passed⟩ := h.flight at_
    exact h.goto ⟨mine, unrecorded, isFree, passed⟩
  | full τ k pos at_ ended =>
    obtain ⟨mine, unrecorded, -⟩ := h.flight at_
    refine h.ret (fun k' _ => slotAfter_insert_keeps fun same => ?_) (fun _ _ same => by cases same)
    subst same
    exact unrecorded.symm
  | claimed τ k pos i w at_ slot word =>
    obtain ⟨mine, unrecorded, isFree, passed⟩ := h.flight at_
    exact h.claimSlot mine unrecorded isFree passed slot word
  | lost τ k pos i w w' at_ slot word changed =>
    obtain ⟨mine, unrecorded, -, passed⟩ := h.flight at_
    by_cases isFree : w' = .empty ∨ w' = .tombstone
    · rw [if_pos isFree]
      exact h.goto ⟨mine, unrecorded, isFree, passed⟩
    · -- the slot was taken by a key: the search moves past it
      rw [if_neg isFree]
      refine h.goto ⟨mine, unrecorded, forall_take_succ slot passed fun empty => isFree (.inl ?_)⟩
      rw [word] at empty
      exact Option.some.inj empty
  | released τ k i at_ word =>
    obtain ⟨mine, -⟩ := h.flight at_
    exact h.releaseSlot mine word
  | kept τ k i w at_ word changed =>
    -- only the owner removes its key, so the slot still holds it
    obtain ⟨-, held⟩ := h.flight at_
    rw [word] at held
    exact absurd (Option.some.inj held) changed

theorem sound_start (n : Nat) (init : α) : Sound owner (Shared.start (create n init)) := by
  have never : ∀ k i, (create n init).keyAt i ≠ some (.holds k) := fun k i held => by
    simpa using ((represents_create n init).held k i).mp held
  refine ⟨(represents_create n init).valid, fun k i => iff_of_false (by simp [Shared.start, slotOf])
    (never k i), fun i => ?_, fun τ pre k r post empty => ?_, fun τ => trivial⟩
  · show SlotEvent.replay none [] = some (holder ((create n init).keyAt i))
    rw [keyAt_create]
    split <;> rfl
  · simp [Shared.start] at empty

/-- Every state that steps reach from an unused table satisfies the invariant. -/
theorem sound_of_run {n : Nat} {init : α}
    (run : Relation.ReflTransGen (Step owner) (Shared.start (create n init)) s) : Sound owner s := by
  induction run with
  | refl => exact sound_start n init
  | tail _ step sound => exact sound.step step

end Invariant

/-- However the atomic steps of threads that insert and remove only their own keys interleave, no
key is held by two slots; between two claims of a slot the first key releases it, so a slot is
claimed by one insert at a time and a released slot by at most one later insert; and a lookup by
a key's owner after an insert of the key, with no insert or removal of it in between, returns the
slot that insert returned. -/
theorem concurrent_claims_stay_exclusive {owner : Nat → Nat} {n : Nat} {init : α} {s : Shared α}
    (run : Relation.ReflTransGen (Step owner) (Shared.start (create n init)) s) :
    (∀ i j k, s.table.keyAt i = some (.holds k) → s.table.keyAt j = some (.holds k) → i = j) ∧
    (∀ i pre mid post k k', s.events i = pre ++ .claim k :: (mid ++ .claim k' :: post) →
      .release k ∈ mid) ∧
    (∀ τ pre mid post k i r,
      s.history τ = pre ++ (.insert k, .slot (some i)) :: (mid ++ (.find k, .slot r) :: post) →
      owner k = τ → (∀ e ∈ mid, e.1 ≠ .insert k ∧ e.1 ≠ .remove k) → r = some i) := by
  have sound := sound_of_run run
  refine ⟨sound.valid.unique, fun i pre mid post k k' claims => ?_,
    fun τ pre mid post k i r history mine untouched => ?_⟩
  · have replayed := sound.events i
    rw [claims] at replayed
    exact SlotEvent.release_between replayed
  · have found := sound.finds τ (pre ++ (.insert k, .slot (some i)) :: mid) k r post
      (by rw [history]; simp) mine
    rw [found, List.append_cons, slotOf_append_untouched untouched, slotOf_append, slotAfter,
      if_pos rfl]

/-- Two threads insert keys that collide in a table of two slots, and both see the same empty
slot. The first claims it; the second's swap fails and it claims the other slot. Then the first
removes its key, and the second looks its own up past the tombstone. -/
def collidingClaims : Shared Nat :=
  ((((((((((((((((Shared.start (create 2 0)).goto 0 (.scan .insert 1 0)).goto 1 (.scan .insert 3 0)
    ).miss 0 .insert 1).miss 1 .insert 3).goto 0 (.claim 1 0 .empty)).goto 1 (.claim 3 0 .empty)
    ).claimSlot 0 1 1).goto 1 (.seek 3 1)).goto 1 (.claim 3 1 .empty)).claimSlot 1 3 0
    ).goto 0 (.scan .remove 1 0)).hit 0 .remove 1 1).releaseSlot 0 1 1).goto 1 (.scan .find 3 0)
    ).goto 1 (.scan .find 3 1)).hit 1 .find 3 0

theorem colliding_claims_stay_exclusive :
    Relation.ReflTransGen (Step fun k => k / 2) (Shared.start (create 2 0)) collidingClaims ∧
    (∀ i j k, collidingClaims.table.keyAt i = some (.holds k) →
      collidingClaims.table.keyAt j = some (.holds k) → i = j) ∧
    (∀ i pre mid post k k', collidingClaims.events i = pre ++ .claim k :: (mid ++ .claim k' :: post) →
      .release k ∈ mid) ∧
    (∀ τ pre mid post k i r, collidingClaims.history τ =
        pre ++ (.insert k, .slot (some i)) :: (mid ++ (.find k, .slot r) :: post) →
      k / 2 = τ → (∀ e ∈ mid, e.1 ≠ .insert k ∧ e.1 ≠ .remove k) → r = some i) :=
  have run : Relation.ReflTransGen (Step fun k => k / 2) (Shared.start (create 2 0)) collidingClaims :=
    .tail (.tail (.tail (.tail (.tail (.tail (.tail (.tail (.tail (.tail (.tail (.tail (.tail (.tail
      (.tail (.single
        (Step.call 0 .insert 1 rfl (by decide) fun _ => rfl))
        (Step.call 1 .insert 3 rfl (by decide) fun _ => rfl))
        (Step.miss 0 .insert 1 0 rfl (.inr ⟨1, rfl, rfl⟩)))
        (Step.miss 1 .insert 3 0 rfl (.inr ⟨1, rfl, rfl⟩)))
        (Step.see 0 1 0 1 .empty rfl rfl rfl (.inl rfl)))
        (Step.see 1 3 0 1 .empty rfl rfl rfl (.inl rfl)))
        (Step.claimed 0 1 0 1 .empty rfl rfl rfl))
        (Step.lost 1 3 0 1 .empty (.holds 1) rfl rfl rfl (by decide)))
        (Step.see 1 3 1 0 .empty rfl rfl rfl (.inl rfl)))
        (Step.claimed 1 3 1 0 .empty rfl rfl rfl))
        (Step.call 0 .remove 1 rfl (by decide) fun _ => rfl))
        (Step.hit 0 .remove 1 0 1 (.holds 1) rfl rfl rfl (by decide) rfl))
        (Step.released 0 1 1 rfl rfl))
        (Step.call 1 .find 3 rfl (by decide) fun _ => rfl))
        (Step.pass 1 .find 3 0 1 .tombstone rfl rfl rfl (by decide) (by decide)))
        (Step.hit 1 .find 3 1 0 (.holds 3) rfl rfl rfl (by decide) rfl)
  ⟨run, concurrent_claims_stay_exclusive run⟩

end CausalProfiler.ThreadTable
