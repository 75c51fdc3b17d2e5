import CausalProfiler.Sync
import CausalProfiler.Proofs.Watermarks
/-!
# Credit across blocking calls

A thread inside a blocking call is not running, so the delay the others insert meanwhile must
not be charged to it again when it wakes: the hooks around the call note the global delay before
it and credit the thread the advance after it. An operation that wakes others pays the thread's
own debt first, so the woken thread never inherits a watermark that is too low.

* `SyncOp.hook_catchUp_iff`, `Credit.applies_iff`: the hook table, read as sets of operations;
* `paid_intercept`: when the call raises the global delay by `D` and leaves the calling slot
  alone, the slot's delay after the call is its delay after the catch-up, plus `D` wrapped
  around the word when the call is credited;
* `intercept_credits_advance_once`: as long as that sum fits the word, the thread's delay moves
  by exactly the advance of the watermark or not at all, and a credited thread that was even
  with the watermark is even with it afterwards and owes nothing;
* `credit_wraps_past_top`: a thread near the top of the word that is credited the advance wraps
  around, like the credit of `wrapped_counters_fall`.
-/
namespace CausalProfiler

/-- The operations that pay their thread's debt before the call are exactly those that wake
others: unlock, signal, broadcast, wake, and the barrier. -/
theorem SyncOp.hook_catchUp_iff (op : SyncOp) :
    op.hook.catchUp = true ↔ op ∈ [SyncOp.unlock, .signal, .broadcast, .wake, .barrier] := by
  cases op <;> decide

/-- A call is credited when its operation always is, or is on success and succeeded. -/
theorem Credit.applies_iff (c : Credit) (succeeded : Bool) :
    c.applies succeeded = true ↔ c = .always ∨ (c = .onSuccess ∧ succeeded = true) := by
  cases c <;> simp [Credit.applies]

namespace Profiler

variable {p q : Profiler} {i : Nat}

/-! ## The hooks, one at a time -/

@[simp] theorem global_preBlock : (p.preBlock i).global = p.global := rfl

@[simp] theorem capacity_preBlock : (p.preBlock i).threads.capacity = p.threads.capacity := by
  simp [preBlock, setAccount, ThreadTable.modifyValue, ThreadTable.capacity]

theorem account_preBlock_self (hi : i < p.threads.capacity) :
    (p.preBlock i).account i = { p.account i with blockedAt := p.global } :=
  account_setAccount_self _ _ _ hi

@[simp] theorem global_postBlock (credited : Bool) : (p.postBlock i credited).global = p.global := by
  unfold postBlock
  split <;> rfl

/-- A credit adds the advance of the global delay since the blocked-at mark, around the word. -/
theorem paid_postBlock_self (hi : i < p.threads.capacity) (credited : Bool) :
    ((p.postBlock i credited).account i).paid =
      if credited then Word.addWrap (p.account i).paid (p.global - (p.account i).blockedAt)
      else (p.account i).paid := by
  cases credited with
  | false => rfl
  | true => simp [postBlock, account_setAccount_self _ _ _ hi]

@[simp] theorem capacity_catchUp : (p.catchUp i).threads.capacity = p.threads.capacity := by
  unfold catchUp
  split
  · exact capacity_reconcile p i
  · rfl

/-- A thread even with the watermark has nothing to pay: its catch-up changes nothing. -/
theorem catchUp_of_even (even : (p.account i).paid = p.global) : p.catchUp i = p := by
  unfold catchUp reconcile addDelays settle
  split
  · simp only [*, Bool.not_true, Bool.false_eq_true, ↓reduceIte, Nat.lt_irrefl]
  · rfl

/-! ## Before and after the call -/

/-- The profiler a call's hooks start from: the slot reconciled when the operation wakes
others. -/
theorem beforeCall_eq (h : Hook) :
    p.beforeCall i h =
      if h.credit = .never then (if h.catchUp then p.catchUp i else p)
      else (if h.catchUp then p.catchUp i else p).preBlock i := rfl

theorem global_beforeCall (h : Hook) :
    (p.beforeCall i h).global = (if h.catchUp then p.catchUp i else p).global := by
  rw [beforeCall_eq]
  split <;> rfl

theorem capacity_beforeCall (h : Hook) :
    (p.beforeCall i h).threads.capacity = p.threads.capacity := by
  rw [beforeCall_eq]
  split <;> split <;> simp

/-- The hooks before the call leave the slot's delay as the catch-up left it. -/
theorem paid_beforeCall (h : Hook) (hi : i < p.threads.capacity) :
    ((p.beforeCall i h).account i).paid = ((if h.catchUp then p.catchUp i else p).account i).paid := by
  have hi' : i < (if h.catchUp then p.catchUp i else p).threads.capacity := by
    split <;> simpa using hi
  rw [beforeCall_eq]
  split
  · rfl
  · rw [account_preBlock_self hi']

/-- A call that may be credited starts with the slot marked at the global delay it starts from. -/
theorem blockedAt_beforeCall (h : Hook) (hi : i < p.threads.capacity) (blocks : h.credit ≠ .never) :
    ((p.beforeCall i h).account i).blockedAt = (p.beforeCall i h).global := by
  have hi' : i < (if h.catchUp then p.catchUp i else p).threads.capacity := by
    split <;> simpa using hi
  rw [beforeCall_eq, if_neg blocks, account_preBlock_self hi']
  rfl

@[simp] theorem global_afterCall (h : Hook) (succeeded : Bool) :
    (q.afterCall i h succeeded).global = q.global := by
  unfold afterCall
  split
  · rfl
  · exact global_postBlock _

/-- After the call the slot is credited the advance since its mark, when the call is
credited. -/
theorem paid_afterCall (h : Hook) (succeeded : Bool) (hi : i < q.threads.capacity) :
    ((q.afterCall i h succeeded).account i).paid =
      if h.credit.applies succeeded then
        Word.addWrap (q.account i).paid (q.global - (q.account i).blockedAt)
      else (q.account i).paid := by
  unfold afterCall
  split
  · rename_i never
    simp [never, Credit.applies]
  · exact paid_postBlock_self hi _

/-! ## A whole intercepted call -/

section Intercept

variable {α : Type} {op : SyncOp} {call : Profiler → α × Profiler} {succeeded : α → Bool}
  {D : Nat}

/-- The slot's account in a table, when the slot is in it. -/
theorem value?_eq_account (hi : i < p.threads.capacity) : p.threads.value? i = some (p.account i) := by
  obtain ⟨d, hd⟩ : ∃ d, p.threads.value? i = some d := by
    simp only [ThreadTable.value?, Option.map_eq_some_iff]
    exact ⟨_, _, List.getElem?_eq_getElem hi, rfl⟩
  simp [account, hd]

/-- When the call raises the global delay by `D` and leaves the calling slot as it found it,
the slot ends with its delay after the catch-up, plus `D` around the word if the call is
credited. -/
theorem paid_intercept (hi : i < p.threads.capacity)
    (raised : (call (p.beforeCall i op.hook)).2.global = (p.beforeCall i op.hook).global + D)
    (untouched : (call (p.beforeCall i op.hook)).2.threads.value? i =
      (p.beforeCall i op.hook).threads.value? i) :
    ((p.intercept i op call succeeded).2.account i).paid =
      if op.hook.credit.applies (succeeded (call (p.beforeCall i op.hook)).1) then
        Word.addWrap ((if op.hook.catchUp then p.catchUp i else p).account i).paid D
      else ((if op.hook.catchUp then p.catchUp i else p).account i).paid := by
  have hiStart : i < (p.beforeCall i op.hook).threads.capacity := by
    rw [capacity_beforeCall]
    exact hi
  have paid := paid_beforeCall op.hook hi
  have marked := blockedAt_beforeCall op.hook hi
  unfold intercept
  -- name the profiler the call starts from, and what the call returns
  generalize p.beforeCall i op.hook = start at hiStart paid marked raised untouched ⊢
  generalize call start = result at raised untouched ⊢
  obtain ⟨r, q⟩ := result
  have same : q.account i = start.account i := by
    simp only [account]
    rw [untouched]
  have hiq : i < q.threads.capacity := by
    have held := untouched.trans (value?_eq_account hiStart)
    simp only [ThreadTable.value?, Option.map_eq_some_iff] at held
    obtain ⟨s, hs, -⟩ := held
    exact (List.getElem?_eq_some_iff.mp hs).1
  simp only
  rw [paid_afterCall _ _ hiq, same, paid]
  split
  · rename_i credited
    have blocks : op.hook.credit ≠ .never := by
      rintro never
      rw [never] at credited
      cases credited
    simp only at raised
    rw [marked blocks, raised, Nat.add_sub_cancel_left]
  · rfl

/-- **No double charging across blocking calls.** Take any operation, any call and any result of
it, from any profiler and a slot of its table. The operation first pays the slot's debt exactly
when it wakes others (unlock, signal, broadcast, wake, barrier). If the call raises the global
delay by `D` and leaves the calling slot as it found it, and the slot's delay plus `D` fits the
word, then the call changes the slot's delay by exactly `D` when it is credited (its operation
is credited always, or on success and the call succeeded) and not at all otherwise. So a
credited thread even with the watermark before blocking is even with it afterwards, and its
next catch-up changes nothing. -/
theorem intercept_credits_advance_once (hi : i < p.threads.capacity)
    (raised : (call (p.beforeCall i op.hook)).2.global = (p.beforeCall i op.hook).global + D)
    (untouched : (call (p.beforeCall i op.hook)).2.threads.value? i =
      (p.beforeCall i op.hook).threads.value? i)
    (fits : ((if op ∈ [SyncOp.unlock, .signal, .broadcast, .wake, .barrier] then p.catchUp i
      else p).account i).paid + D < Word.size) :
    let reconciled := if op ∈ [SyncOp.unlock, .signal, .broadcast, .wake, .barrier] then p.catchUp i
      else p
    let credited := op.hook.credit = .always ∨
      (op.hook.credit = .onSuccess ∧ succeeded (call (p.beforeCall i op.hook)).1 = true)
    let final := (p.intercept i op call succeeded).2
    (final.account i).paid = (reconciled.account i).paid + (if credited then D else 0) ∧
      (credited → (reconciled.account i).paid = reconciled.global →
        (final.account i).paid = final.global ∧ final.catchUp i = final) := by
  intro reconciled credited final
  have wakes : (if op.hook.catchUp then p.catchUp i else p) = reconciled := by
    simp only [reconciled, ← SyncOp.hook_catchUp_iff]
  have moved : (final.account i).paid = _ := paid_intercept hi raised untouched
  rw [wakes] at moved
  have creditedIff : op.hook.credit.applies (succeeded (call (p.beforeCall i op.hook)).1) = true ↔
      credited := Credit.applies_iff _ _
  -- the delay after the call, when it fits the word
  have exact : (final.account i).paid = (reconciled.account i).paid + (if credited then D else 0) := by
    rw [moved]
    by_cases c : credited
    · rw [if_pos (creditedIff.mpr c), if_pos c, Word.addWrap, Nat.mod_eq_of_lt fits]
    · rw [if_neg (fun h => c (creditedIff.mp h)), if_neg c, Nat.add_zero]
  refine ⟨exact, fun c even => ?_⟩
  -- the watermark after the call is the one the call returned
  have top : final.global = reconciled.global + D := by
    simp only [final, intercept, global_afterCall, raised, global_beforeCall, wakes]
  have level : (final.account i).paid = final.global := by
    rw [exact, if_pos c, top, even]
  exact ⟨level, catchUp_of_even level⟩

end Intercept

section Examples

/-- Thread 1 registered at delay 0 and thread 2 at 5, in an experiment: thread 1 blocks on a
lock while thread 2 catches up and raises the global delay to 5. -/
def lockedBehind : Profiler :=
  ([.register 1 0, .register 2 5, .begin 0 1000] : List Op).foldl apply fourSlots

/-- Thread 1, blocked on a lock while thread 2 raises the watermark by 5, is credited exactly
those 5, and being even with the watermark before, is even with it after. -/
theorem lock_credits_inserted_delay :
    let call := fun q : Profiler => ((), q.catchUp 2)
    let credited := SyncOp.lock.hook.credit = .always ∨ (SyncOp.lock.hook.credit = .onSuccess ∧
      (fun _ => true : Unit → Bool) (call (lockedBehind.beforeCall 1 SyncOp.lock.hook)).1 = true)
    let final := (lockedBehind.intercept 1 .lock call fun _ => true).2
    1 < lockedBehind.threads.capacity ∧
      (call (lockedBehind.beforeCall 1 SyncOp.lock.hook)).2.global =
        (lockedBehind.beforeCall 1 SyncOp.lock.hook).global + 5 ∧
      (call (lockedBehind.beforeCall 1 SyncOp.lock.hook)).2.threads.value? 1 =
        (lockedBehind.beforeCall 1 SyncOp.lock.hook).threads.value? 1 ∧
      ((if SyncOp.lock ∈ [SyncOp.unlock, .signal, .broadcast, .wake, .barrier] then
        lockedBehind.catchUp 1 else lockedBehind).account 1).paid + 5 < Word.size ∧
      (final.account 1).paid = ((if SyncOp.lock ∈ [SyncOp.unlock, .signal, .broadcast, .wake,
        .barrier] then lockedBehind.catchUp 1 else lockedBehind).account 1).paid +
          (if credited then 5 else 0) ∧
      (credited → ((if SyncOp.lock ∈ [SyncOp.unlock, .signal, .broadcast, .wake, .barrier] then
        lockedBehind.catchUp 1 else lockedBehind).account 1).paid =
          (if SyncOp.lock ∈ [SyncOp.unlock, .signal, .broadcast, .wake, .barrier] then
            lockedBehind.catchUp 1 else lockedBehind).global →
        (final.account 1).paid = final.global ∧ final.catchUp 1 = final) := by
  intro call credited final
  have hi : 1 < lockedBehind.threads.capacity := by decide
  have raised : (call (lockedBehind.beforeCall 1 SyncOp.lock.hook)).2.global =
      (lockedBehind.beforeCall 1 SyncOp.lock.hook).global + 5 := by decide
  have untouched : (call (lockedBehind.beforeCall 1 SyncOp.lock.hook)).2.threads.value? 1 =
      (lockedBehind.beforeCall 1 SyncOp.lock.hook).threads.value? 1 := by decide
  have fits : ((if SyncOp.lock ∈ [SyncOp.unlock, .signal, .broadcast, .wake, .barrier] then
      lockedBehind.catchUp 1 else lockedBehind).account 1).paid + 5 < Word.size := by decide
  exact ⟨hi, raised, untouched, fits, intercept_credits_advance_once hi raised untouched fits⟩

/-- Thread 1 registered at the largest delay, blocked on a lock while thread 2 raises the
watermark by 5: the credit wraps around the word and its delay falls to 4. -/
theorem credit_wraps_past_top :
    let p := ([.register 1 Word.max, .register 2 5, .begin 0 1000] : List Op).foldl apply fourSlots
    let call := fun q : Profiler => ((), q.catchUp 2)
    (call (p.beforeCall 1 SyncOp.lock.hook)).2.global = (p.beforeCall 1 SyncOp.lock.hook).global + 5 ∧
      (call (p.beforeCall 1 SyncOp.lock.hook)).2.threads.value? 1 =
        (p.beforeCall 1 SyncOp.lock.hook).threads.value? 1 ∧
      (p.account 1).paid = Word.max ∧
      ((p.intercept 1 .lock call fun _ => true).2.account 1).paid = 4 := by
  decide

end Examples

end Profiler

end CausalProfiler
