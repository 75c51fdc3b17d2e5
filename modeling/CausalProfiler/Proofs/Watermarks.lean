import CausalProfiler.Proofs.ThreadExit
import CausalProfiler.Proofs.Control
import Mathlib.Logic.Relation
/-!
# Delay watermarks

The global delay and the threads' own delays are 64-bit counters that the delay protocol only
raises: a reconciliation takes the larger of two delays, a charge adds up to the cap, an
insertion and a credit add. Two of these additions wrap around the word instead of stopping at
its end: inserting global delay, and crediting a thread the delay inserted while it blocked.

* `global_le_apply`: no operation lowers the global delay, unless it is an insertion that passes
  the largest word;
* `paid_le_apply`: during an experiment, no operation lowers a slot's delay, unless it registers
  a thread onto the slot or is a credit that passes the largest word;
* `watermarks_move_forward`: along operations that wrap no counter, the global delay never
  falls, a thread's delay never falls during an experiment unless the thread registers again,
  and a round reports exactly the delay inserted while it ran;
* `wrapped_counters_fall`: an insertion at the top of the word lowers the global delay, and a
  credit to a thread near the top lowers that thread's delay during an experiment.
-/
namespace CausalProfiler.ThreadTable

/-- An insertion lands on the slot holding its key, or on a free one. -/
theorem insert_lands {α : Type} {t t' : ThreadTable α} {key i : Nat} (h : t.insert key = .ok (some (i, t'))) :
    t.keyAt i = some (.holds key) ∨ t.free i = true := by
  unfold insert at h
  split at h
  · cases h
  · rename_i reserved
    split at h
    · rename_i found
      cases h
      exact .inl (keyAt_of_find? found (not_or.mp reserved).2)
    · obtain ⟨j, claimed, hj⟩ := Option.map_eq_some_iff.mp (Except.ok.inj h)
      cases hj
      exact .inr (freeSlot?_some claimed).1

end CausalProfiler.ThreadTable

namespace CausalProfiler.Profiler

/-- The operations made on the profiler, one at a time: by a profiled thread on its slot, or by
the controller. A drain attributes the samples buffered for each slot in turn, and a blocking
call is a catch-up, a note before blocking and a credit after, with others' operations between. -/
inductive Op where
  | sample (i : Nat) (s : Sample)
  | drain (batches : List (Nat × List Sample))
  | charge (i amount : Nat)
  | addDelays (i overshoot : Nat)
  | catchUp (i : Nat)
  | preBlock (i : Nat)
  | postBlock (i : Nat) (credited : Bool)
  | begin (line delaySize : Nat)
  | finish
  | insert (amount : Nat)
  | register (tid initial : Nat)
  | unregister (tid overshoot : Nat)

/-- What an operation does. A registration the table refuses changes nothing. -/
def apply (p : Profiler) : Op → Profiler
  | .sample i s => p.takeSample i s
  | .drain batches => batches.foldl (fun q (i, smps) => q.takeSamples i smps) p
  | .charge i amount => p.charge i amount
  | .addDelays i overshoot => p.addDelays i overshoot
  | .catchUp i => p.catchUp i
  | .preBlock i => p.preBlock i
  | .postBlock i credited => p.postBlock i credited
  | .begin line delaySize => (p.beginExperiment line delaySize).1
  | .finish => p.endExperiment.2
  | .insert amount => p.insertDelay amount
  | .register tid initial =>
    match p.register tid initial with
    | .ok (_, q) => q
    | .error _ => p
  | .unregister tid overshoot => p.unregisterAfter tid overshoot

/-- An operation whose values are words, as the program's are: a registration's starting delay. -/
def Op.Fits : Op → Prop
  | .register _ initial => initial < Word.size
  | _ => True

/-- Whether an operation carries a counter past the largest word, where the program's addition
wraps around: an insertion the global delay, a credit the slot's own delay. -/
def Wraps (p : Profiler) : Op → Prop
  | .insert amount => Word.size ≤ p.global + amount
  | .postBlock i true => Word.size ≤ (p.account i).paid + (p.global - (p.account i).blockedAt)
  | _ => False

/-- One operation that wraps no counter. -/
inductive Operates : Profiler → Profiler → Prop
  | apply {p : Profiler} (op : Op) (fits : op.Fits) (clean : ¬ p.Wraps op) : Operates p (p.apply op)

/-- One operation that wraps no counter, made during an experiment, that does not register
thread `k`. -/
inductive OperatesActive (k : Nat) : Profiler → Profiler → Prop
  | apply {p : Profiler} (op : Op) (fits : op.Fits) (clean : ¬ p.Wraps op) (active : p.active = true)
      (other : ∀ initial, op ≠ .register k initial) : OperatesActive k p (p.apply op)

theorem OperatesActive.operates {k : Nat} {p q : Profiler} (h : OperatesActive k p q) :
    Operates p q := by
  cases h with
  | apply op fits clean => exact .apply op fits clean

variable {p : Profiler} {i j : Nat}

section Global

@[simp] theorem global_takeSample (s : Sample) : (p.takeSample i s).global = p.global := by
  obtain ⟨charged, samples, proposal, eq⟩ := takeSample_eq p i s
  rw [eq]
  cases charged <;> rfl

@[simp] theorem global_takeSamples (p : Profiler) (smps : List Sample) :
    (p.takeSamples i smps).global = p.global := by
  induction smps generalizing p with
  | nil => rfl
  | cons smp smps ih => exact (ih (p.takeSample i smp)).trans (global_takeSample smp)

/-- A drain attributes samples only, whichever slots they were taken on. -/
theorem global_drain (p : Profiler) (batches : List (Nat × List Sample)) :
    (p.apply (.drain batches)).global = p.global := by
  induction batches generalizing p with
  | nil => rfl
  | cons b bs ih =>
    obtain ⟨i, smps⟩ := b
    exact (ih (p.takeSamples i smps)).trans (global_takeSamples p smps)

theorem global_le_addDelays (o : Nat) : p.global ≤ (p.addDelays i o).global := by
  unfold addDelays settle
  split
  · exact Nat.le_refl _
  · split
    · exact Nat.le_max_left _ _
    · split <;> exact Nat.le_refl _

theorem global_register {tid initial : Nat} {slot : Option Nat} {q : Profiler}
    (h : p.register tid initial = .ok (slot, q)) : q.global = p.global := by
  cases slot with
  | none => rw [register_none h]
  | some i => exact (register_some h).2.1

/-- No operation lowers the global delay, unless it is an insertion that wraps around. -/
theorem global_le_apply (op : Op) (clean : ¬ p.Wraps op) : p.global ≤ (p.apply op).global := by
  cases op with
  | sample i s => exact Nat.le_of_eq (global_takeSample s).symm
  | drain batches => exact Nat.le_of_eq (global_drain p batches).symm
  | addDelays i o => exact global_le_addDelays o
  | catchUp i =>
    simp only [apply, catchUp, reconcile]
    split
    · exact global_le_addDelays 0
    · exact Nat.le_refl _
  | postBlock i credited =>
    simp only [apply, postBlock]
    split <;> exact Nat.le_refl _
  | begin line delaySize =>
    simp only [apply, beginExperiment]
    split <;> exact Nat.le_refl _
  | insert amount =>
    have fits : p.global + amount < Word.size := Nat.lt_of_not_le clean
    simp only [apply, insertDelay, Word.addWrap, Nat.mod_eq_of_lt fits]
    omega
  | register tid initial =>
    simp only [apply]
    split
    · rename_i slot q registered
      exact Nat.le_of_eq (global_register registered).symm
    · exact Nat.le_refl _
  | unregister tid o =>
    rcases unregisterAfter_eq p tid o with same | ⟨i, -, t, -, -, eq⟩
    · exact Nat.le_of_eq (congrArg global same).symm
    · simp only [apply, eq]
      exact global_le_addDelays o
  | charge | preBlock | finish => exact Nat.le_refl _

theorem Operates.global_le {q : Profiler} (h : Operates p q) : p.global ≤ q.global := by
  cases h with
  | apply op _ clean => exact global_le_apply op clean

theorem global_le_of_run {q : Profiler} (run : Relation.ReflTransGen Operates p q) :
    p.global ≤ q.global := by
  induction run with
  | refl => exact Nat.le_refl _
  | tail _ step ih => exact Nat.le_trans ih step.global_le

end Global

section Local

/-- Changing one account so that its delay does not fall lowers no slot's delay. -/
theorem paid_le_setAccount {f : ThreadDelay → ThreadDelay}
    (raised : (p.account i).paid ≤ (f (p.account i)).paid) (j : Nat) :
    (p.account j).paid ≤ ((p.setAccount i f).account j).paid := by
  rcases account_setAccount_cases p i f j with same | ⟨rfl, set⟩
  · rw [same]
  · exact set ▸ raised

theorem paid_le_charge (a j : Nat) : (p.account j).paid ≤ ((p.charge i a).account j).paid := by
  refine paid_le_setAccount ?_ j
  split
  · exact Nat.le_min.mpr ⟨Nat.le_add_right _ _, Nat.le_of_lt ‹_›⟩
  · exact Nat.le_refl _

theorem paid_le_takeSample (s : Sample) (j : Nat) :
    (p.account j).paid ≤ ((p.takeSample i s).account j).paid := by
  obtain ⟨charged, samples, proposal, eq⟩ := takeSample_eq p i s
  rw [eq]
  cases charged
  · exact Nat.le_refl _
  · exact paid_le_charge _ j

theorem paid_le_takeSamples (p : Profiler) (smps : List Sample) (j : Nat) :
    (p.account j).paid ≤ ((p.takeSamples i smps).account j).paid := by
  induction smps generalizing p with
  | nil => exact Nat.le_refl _
  | cons smp smps ih => exact Nat.le_trans (paid_le_takeSample smp j) (ih (p.takeSample i smp))

theorem paid_le_drain (p : Profiler) (batches : List (Nat × List Sample)) (j : Nat) :
    (p.account j).paid ≤ ((p.apply (.drain batches)).account j).paid := by
  induction batches generalizing p with
  | nil => exact Nat.le_refl _
  | cons b bs ih =>
    obtain ⟨i, smps⟩ := b
    exact Nat.le_trans (paid_le_takeSamples p smps j) (ih (p.takeSamples i smps))

/-- A slot behind the global delay pays its debt and an oversleep credit up to the cap, and the
sum is a word when the global delay is: the payment raises the slot's delay without wrapping. -/
theorem le_addWrap_payment (word : p.global < Word.size) {own : Nat} (behind : own < p.global)
    (o : Nat) : own ≤ Word.addWrap own (p.payment p.global own o) := by
  have cap : p.cap ≤ Word.max := Nat.min_le_right _ _
  have top := Word.size_eq_max_add_one
  have credit : (if p.roundStart ≤ own then min o (p.cap - p.global) else 0) ≤ p.cap - p.global := by
    split
    · exact Nat.min_le_right _ _
    · exact Nat.zero_le _
  have sum : own + p.payment p.global own o < Word.size := by
    simp only [payment]
    omega
  rw [Word.addWrap, Nat.mod_eq_of_lt sum]
  exact Nat.le_add_right _ _

/-- During an experiment, a reconciliation lowers no slot's delay. -/
theorem paid_le_addDelays (active : p.active = true) (word : p.global < Word.size) (o j : Nat) :
    (p.account j).paid ≤ ((p.addDelays i o).account j).paid := by
  simp only [addDelays, active, Bool.not_true, Bool.false_eq_true, ↓reduceIte, settle]
  split
  · exact Nat.le_refl _
  · split
    · exact paid_le_setAccount (le_addWrap_payment word ‹_› o) j
    · exact Nat.le_refl _

/-- A credit that stays within the word lowers no slot's delay. -/
theorem paid_le_postBlock (credited : Bool) (clean : ¬ p.Wraps (.postBlock i credited)) (j : Nat) :
    (p.account j).paid ≤ ((p.postBlock i credited).account j).paid := by
  cases credited with
  | false => exact Nat.le_refl _
  | true =>
    have fits := Nat.lt_of_not_le clean
    refine paid_le_setAccount ?_ j
    simp only [Word.addWrap, Nat.mod_eq_of_lt fits]
    exact Nat.le_add_right _ _

/-- Whether a registration made by an operation claims slot `j`. -/
def RegistersOnto (p : Profiler) (j : Nat) : Op → Prop
  | .register tid initial => ∃ q, p.register tid initial = .ok (some j, q)
  | _ => False

/-- During an experiment, no operation lowers a slot's delay, unless it registers a thread onto
the slot or is a credit that wraps around. -/
theorem paid_le_apply (active : p.active = true) (word : p.global < Word.size) (op : Op)
    (clean : ¬ p.Wraps op) (onto : ¬ p.RegistersOnto j op) :
    (p.account j).paid ≤ ((p.apply op).account j).paid := by
  cases op with
  | sample i s => exact paid_le_takeSample s j
  | drain batches => exact paid_le_drain p batches j
  | charge i a => exact paid_le_charge a j
  | addDelays i o => exact paid_le_addDelays active word o j
  | catchUp i =>
    simp only [apply, catchUp, active, ↓reduceIte, reconcile]
    exact paid_le_addDelays active word 0 j
  | preBlock i => exact paid_le_setAccount (Nat.le_refl _) j
  | postBlock i credited => exact paid_le_postBlock credited clean j
  | begin line delaySize =>
    simp only [apply, beginExperiment]
    split <;> exact Nat.le_refl _
  | register tid initial =>
    simp only [apply]
    split
    · rename_i slot q registered
      cases slot with
      | none => rw [register_none registered]
      | some i =>
        -- the registration lands on another slot, which is all it changes
        have other : j ≠ i := fun same => onto ⟨q, same ▸ registered⟩
        exact Nat.le_of_eq (by rw [(register_some registered).2.2.2.2.2.2.2.1 j other])
    · exact Nat.le_refl _
  | unregister tid o =>
    rcases unregisterAfter_eq p tid o with same | ⟨i, -, t, values, -, eq⟩
    · exact Nat.le_of_eq (by rw [apply, same])
    · have kept : ((p.unregisterAfter tid o).account j) = (p.addDelays i o).account j := by
        rw [eq]
        simp only [account, values]
      simp only [apply, kept]
      exact paid_le_addDelays active word o j
  | finish | insert => exact Nat.le_refl _

end Local

section Words

/-- Changing one account to a delay that is a word keeps the counters words. -/
theorem Words.setAccount (words : p.Words) {f : ThreadDelay → ThreadDelay}
    (word : (f (p.account i)).paid < Word.size) : (p.setAccount i f).Words := by
  refine ⟨words.1, fun j => ?_⟩
  rcases account_setAccount_cases p i f j with same | ⟨rfl, set⟩
  · exact same ▸ words.2 j
  · exact set ▸ word

theorem Words.charge (words : p.Words) (a : Nat) : (p.charge i a).Words := by
  have cap : p.cap < Word.size := Nat.lt_of_le_of_lt (Nat.min_le_right _ _) (by decide)
  refine words.setAccount ?_
  split
  · exact Nat.lt_of_le_of_lt (Nat.min_le_right _ _) cap
  · exact words.2 i

theorem Words.takeSample (words : p.Words) (s : Sample) : (p.takeSample i s).Words := by
  obtain ⟨charged, samples, proposal, eq⟩ := takeSample_eq p i s
  rw [eq]
  cases charged
  · exact words
  · exact words.charge _

theorem Words.takeSamples {p : Profiler} (words : p.Words) (smps : List Sample) :
    (p.takeSamples i smps).Words := by
  induction smps generalizing p with
  | nil => exact words
  | cons smp smps ih => exact ih (words.takeSample smp)

theorem Words.addDelays (words : p.Words) (o : Nat) : (p.addDelays i o).Words := by
  unfold Profiler.addDelays settle
  split
  · exact words.setAccount words.1
  · split
    · exact ⟨Nat.max_lt.mpr ⟨words.1, words.2 i⟩, words.2⟩
    · split
      · exact words.setAccount (Nat.mod_lt _ (by decide))
      · exact words

/-- Every operation whose values are words keeps the counters words: the wrapping additions
stay within the word by wrapping. -/
theorem Words.apply (words : p.Words) (op : Op) (fits : op.Fits) : (p.apply op).Words := by
  cases op with
  | sample i s => exact words.takeSample s
  | drain batches =>
    induction batches generalizing p with
    | nil => exact words
    | cons b bs ih =>
      obtain ⟨i, smps⟩ := b
      exact ih (words.takeSamples smps) trivial
  | charge i a => exact words.charge a
  | addDelays i o => exact words.addDelays o
  | catchUp i =>
    simp only [Profiler.apply, catchUp, reconcile]
    split
    · exact words.addDelays 0
    · exact words
  | preBlock i => exact words.setAccount (words.2 i)
  | postBlock i credited =>
    simp only [Profiler.apply, postBlock]
    split
    · exact words.setAccount (Nat.mod_lt _ (by decide))
    · exact words
  | begin line delaySize =>
    simp only [Profiler.apply, beginExperiment]
    split <;> exact words
  | finish => exact words
  | insert amount => exact ⟨Nat.mod_lt _ (by decide), words.2⟩
  | register tid initial =>
    simp only [Profiler.apply]
    split
    · rename_i slot q registered
      cases slot with
      | none => rwa [register_none registered]
      | some i =>
        obtain ⟨-, global, -, -, -, -, reset, others, -⟩ := register_some registered
        refine ⟨global ▸ words.1, fun j => ?_⟩
        by_cases same : j = i
        · rw [same, reset]
          exact fits
        · rw [others j same]
          exact words.2 j
    · exact words
  | unregister tid o =>
    rcases unregisterAfter_eq p tid o with same | ⟨i, -, t, values, -, eq⟩
    · simp only [Profiler.apply, same]
      exact words
    · have reconciled := words.addDelays (i := i) o
      simp only [Profiler.apply, eq]
      exact ⟨reconciled.1, fun j => by simpa only [account, values] using reconciled.2 j⟩

theorem Operates.words {q : Profiler} (h : Operates p q) (words : p.Words) : q.Words := by
  cases h with
  | apply op fits _ => exact words.apply op fits

end Words

section Keys

/-- A registration lands on a slot holding a thread only to register that thread again. -/
theorem registers_onto_held {k tid initial : Nat} (held : p.threads.keyAt j = some (.holds k))
    (onto : p.RegistersOnto j (.register tid initial)) : tid = k := by
  obtain ⟨q, registered⟩ := onto
  unfold register at registered
  split at registered
  · cases registered
  · cases registered
  · rename_i i t inserted
    cases registered
    rcases ThreadTable.insert_lands inserted with own | free
    · rw [held] at own
      cases own
      rfl
    · simp [ThreadTable.free, held] at free

theorem keyAt_of_keys {q : Profiler} (keys : q.threads.slots.map Slot.key = p.threads.slots.map Slot.key)
    {key : SlotKey} (held : q.threads.keyAt j = some key) : p.threads.keyAt j = some key :=
  (ThreadTable.keyAt_eq_of_keys keys j) ▸ held

theorem keys_drain (p : Profiler) (batches : List (Nat × List Sample)) :
    (p.apply (.drain batches)).threads.slots.map Slot.key = p.threads.slots.map Slot.key := by
  induction batches generalizing p with
  | nil => rfl
  | cons b bs ih =>
    obtain ⟨i, smps⟩ := b
    exact (ih (p.takeSamples i smps)).trans (keys_takeSamples p smps)

/-- A slot that holds thread `k` after an operation held it before, unless the operation
registered `k`: registrations and removals are the only operations that change a slot's key. -/
theorem keyAt_of_apply {k : Nat} {op : Op} (other : ∀ initial, op ≠ .register k initial)
    (held : (p.apply op).threads.keyAt j = some (.holds k)) : p.threads.keyAt j = some (.holds k) := by
  cases op with
  | sample i s => exact keyAt_of_keys (keys_takeSample s) held
  | drain batches => exact keyAt_of_keys (keys_drain p batches) held
  | addDelays i o => exact keyAt_of_keys (keys_addDelays o) held
  | catchUp i =>
    simp only [apply, catchUp, reconcile] at held
    split at held
    · exact keyAt_of_keys (keys_addDelays 0) held
    · exact held
  | postBlock i credited =>
    simp only [apply, postBlock] at held
    split at held
    · simpa [setAccount] using held
    · exact held
  | begin line delaySize =>
    simp only [apply, beginExperiment] at held
    split at held <;> exact held
  | register tid initial =>
    have other : tid ≠ k := fun same => other initial (same ▸ rfl)
    cases inserted : p.threads.insert tid with
    | error f => simpa [apply, register, inserted] using held
    | ok slot =>
      cases slot with
      | none => simpa [apply, register, inserted] using held
      | some claimed =>
        obtain ⟨i, t⟩ := claimed
        simp only [apply, register, inserted, ThreadTable.keyAt_modifyValue] at held
        rcases (ThreadTable.insert_some inserted).2 with rfl | rfl
        · exact held
        · rcases ThreadTable.keyAt_setKey_cases held with ⟨-, same⟩ | ⟨-, before⟩
          · cases same
            exact absurd rfl other
          · exact before
  | unregister tid o =>
    cases found : p.slot? tid with
    | none => simpa [apply, unregisterAfter, found] using held
    | some i =>
      simp only [apply, unregisterAfter, found] at held
      rcases ThreadTable.remove_cases (p.addDelays i o).threads tid with same | ⟨i', removed⟩
      · rw [same] at held
        exact keyAt_of_keys (keys_addDelays o) held
      · rw [removed] at held
        rcases ThreadTable.keyAt_setKey_cases held with ⟨-, tomb⟩ | ⟨-, before⟩
        · cases tomb
        · exact keyAt_of_keys (keys_addDelays o) before
  | charge i a => simpa [apply, charge, setAccount] using held
  | preBlock i => simpa [apply, preBlock, setAccount] using held
  | finish | insert => exact held

end Keys

section Runs

theorem words_of_run {q : Profiler} (words : p.Words) (run : Relation.ReflTransGen Operates p q) :
    q.Words := by
  induction run with
  | refl => exact words
  | tail _ step ih => exact step.words ih

/-- During an experiment, an operation that does not register thread `k` lowers no delay of a
slot holding `k`. -/
theorem OperatesActive.paid_le {k : Nat} {q : Profiler} (h : OperatesActive k p q) (words : p.Words)
    (held : p.threads.keyAt j = some (.holds k)) : (p.account j).paid ≤ (q.account j).paid := by
  cases h with
  | apply op _ clean active other =>
    refine paid_le_apply active words.1 op clean fun onto => ?_
    cases op with
    | register tid initial => exact other initial (by rw [registers_onto_held held onto])
    | _ => exact False.elim onto

/-- Along operations made during an experiment that never register thread `k`, a slot holding
`k` at the end held it all along, and its delay never fell. -/
theorem paid_le_of_active_run {k : Nat} {q : Profiler} (words : p.Words)
    (run : Relation.ReflTransGen (OperatesActive k) p q) (held : q.threads.keyAt j = some (.holds k)) :
    (p.account j).paid ≤ (q.account j).paid ∧ p.threads.keyAt j = some (.holds k) := by
  induction run with
  | refl => exact ⟨Nat.le_refl _, held⟩
  | @tail r s before step ih =>
    -- the last operation did not register `k`, so the slot held `k` before it as well
    have heldBefore : r.threads.keyAt j = some (.holds k) := by
      cases step with
      | apply op _ _ _ other => exact keyAt_of_apply other held
    obtain ⟨rose, heldStart⟩ := ih heldBefore
    have wordsBefore := words_of_run words (Relation.ReflTransGen.mono (fun _ _ h => OperatesActive.operates h) _ _ before)
    exact ⟨Nat.le_trans rose (step.paid_le wordsBefore heldBefore), heldStart⟩

/-- **Watermarks only move forward.** Along operations on the profiler that wrap no counter,
starting from counters that are words: the global delay never falls; a thread's delay never
falls while an experiment runs, unless the thread registers again; and a round begun just before
the operations and finished just after them reports as its inserted delay exactly the rise of the
global delay, neither cut at zero nor wrapped. -/
theorem watermarks_move_forward {q : Profiler} (words : p.Words)
    (run : Relation.ReflTransGen Operates p q) :
    p.global ≤ q.global ∧
      (∀ k j, Relation.ReflTransGen (OperatesActive k) p q →
        q.threads.keyAt j = some (.holds k) → (p.account j).paid ≤ (q.account j).paid) ∧
      ∀ (line delay : Nat) (c c₁ c₂ : Controller) (r : Round),
        (Controller.beginRound line delay).run.run c = (.ok r, c₁) → c₁.world.profiler = p →
        c₂.world.profiler = q →
        ∃ o c₃, (Controller.finishRound r).run.run c₂ = (.ok o, c₃) ∧
          r.startDelay + o.delays = q.global := by
  have rose := global_le_of_run run
  refine ⟨rose, fun k j active held => (paid_le_of_active_run words active held).1, ?_⟩
  intro line delay c c₁ c₂ r begun start finish
  obtain ⟨started, startDelay, -⟩ := Controller.beginRound_run begun
  -- the round starts from the global delay of the profiler the operations start from
  have fromStart : r.startDelay = p.global := by
    rw [startDelay, ← start, started]
  obtain ⟨o, c₃, finished, -, delays, -⟩ := Controller.finishRound_run r c₂
  refine ⟨o, c₃, finished, ?_⟩
  rw [delays, finish]
  omega

end Runs

section Examples

/-- A running profiler with four free thread slots, no lines and no points, before any
experiment. -/
def fourSlots : Profiler :=
  { engine := EngineSettings.default, map := ⟨[], []⟩, samples := [], points := Registry.create 0,
    threads := ThreadTable.create 4 ⟨0, 0⟩, global := 0, delaySize := 0, active := false,
    roundStart := 0, selected := none, proposal := none, running := true, endToEnd := false }

theorem fourSlots_words : fourSlots.Words := by
  refine ⟨by decide, fun j => ?_⟩
  simp only [account, ThreadTable.value?, fourSlots, ThreadTable.create, List.getElem?_replicate]
  split <;> decide

/-- Thread 5 registers, an experiment begins, the thread is charged 1000, the controller inserts
500 of global delay, and the thread catches up, raising the global delay to its own. -/
def chargedRound : Profiler :=
  ([.register 5 0, .begin 0 1000, .charge 1 1000, .insert 500, .catchUp 1] : List Op).foldl
    apply fourSlots

theorem charged_round_moves_forward :
    fourSlots.Words ∧ Relation.ReflTransGen Operates fourSlots chargedRound ∧
      fourSlots.global ≤ chargedRound.global ∧
      (∀ k j, Relation.ReflTransGen (OperatesActive k) fourSlots chargedRound →
        chargedRound.threads.keyAt j = some (.holds k) →
        (fourSlots.account j).paid ≤ (chargedRound.account j).paid) ∧
      ∀ (line delay : Nat) (c c₁ c₂ : Controller) (r : Round),
        (Controller.beginRound line delay).run.run c = (.ok r, c₁) →
        c₁.world.profiler = fourSlots → c₂.world.profiler = chargedRound →
        ∃ o c₃, (Controller.finishRound r).run.run c₂ = (.ok o, c₃) ∧
          r.startDelay + o.delays = chargedRound.global := by
  have run : Relation.ReflTransGen Operates fourSlots chargedRound :=
    .tail (.tail (.tail (.tail (.single (.apply (.register 5 0) (show 0 < Word.size by decide) id))
      (.apply (.begin 0 1000) trivial id)) (.apply (.charge 1 1000) trivial id))
      (.apply (.insert 500) trivial (by simp only [Wraps]; decide))) (.apply (.catchUp 1) trivial id)
  exact ⟨fourSlots_words, run, watermarks_move_forward fourSlots_words run⟩

/-- Thread 1 registered at the largest delay and thread 2 at 5; an experiment begins, thread 1
blocks, and thread 2 catches up, raising the global delay to 5. -/
def creditedAtTop : Profiler :=
  ([.register 1 Word.max, .register 2 5, .begin 0 1000, .preBlock 1, .catchUp 2] : List Op).foldl
    apply fourSlots

/-- Where the additions wrap, the counters fall: crediting the blocked thread 1 the 5 inserted
while it blocked lowers its delay during the experiment, and inserting the largest word lowers
the global delay. -/
theorem wrapped_counters_fall :
    creditedAtTop.active = true ∧ creditedAtTop.threads.keyAt 1 = some (.holds 1) ∧
      ((creditedAtTop.apply (.postBlock 1 true)).account 1).paid < (creditedAtTop.account 1).paid ∧
      (creditedAtTop.apply (.insert Word.max)).global < creditedAtTop.global := by
  decide

end Examples

end CausalProfiler.Profiler
