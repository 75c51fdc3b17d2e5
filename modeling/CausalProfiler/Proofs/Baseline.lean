import CausalProfiler.Proofs.Accounts
import CausalProfiler.Proofs.Control
/-!
# Baseline rounds

A round of delay size zero charges nothing, so the global delay moves only when some thread's
own delay is ahead of it. It never is when

* every registered thread's delay is at most the global delay as the round begins, and
* no registration claims the slot of a thread inside a blocking call: registering resets the
  slot's blocked-at mark, and the blocked thread is then credited the whole global delay.

Under these two conditions a baseline round ends with the global delay it began with, so it
reports no inserted delay and a duration equal to its wall time
(`baseline_round_inserts_no_delay`). Without the first, a charge left over from an earlier round
raises the global delay when its thread catches up; without the second, the credit does.
-/
namespace CausalProfiler.Profiler

/-- What the profiled threads may do to the profiler while a round runs, one operation at a time
until it ends, with `blocked` the slots of the threads that entered a blocking call during the
round and have not left it. Entering and leaving a blocking call are steps of their own, so the
calls of several threads overlap in any order. -/
inductive Acts : List Nat → Profiler → Profiler → Prop
  | done (blocked : List Nat) (p : Profiler) : Acts blocked p p
  | sample {blocked : List Nat} {p q : Profiler} (i : Nat) (s : Sample) :
      Acts blocked (p.takeSample i s) q → Acts blocked p q
  /-- A thread reconciles its delay after sleeping off its debt with some oversleep. -/
  | addDelays {blocked : List Nat} {p q : Profiler} (i overshoot : Nat) (held : p.threads.Holds i) :
      Acts blocked (p.addDelays i overshoot) q → Acts blocked p q
  | catchUp {blocked : List Nat} {p q : Profiler} (i : Nat) (held : p.threads.Holds i) :
      Acts blocked (p.catchUp i) q → Acts blocked p q
  /-- A thread notes the global delay as it enters a blocking call. -/
  | preBlock {blocked : List Nat} {p q : Profiler} (i : Nat) (held : p.threads.Holds i) :
      Acts (i :: blocked) (p.preBlock i) q → Acts blocked p q
  /-- A thread that entered a blocking call during the round leaves it, credited when another
  thread woke it. -/
  | postBlock {blocked : List Nat} {p q : Profiler} (i : Nat) (credited : Bool)
      (inside : i ∈ blocked) :
      Acts (blocked.erase i) (p.postBlock i credited) q → Acts blocked p q
  | register {blocked : List Nat} {p q r : Profiler} (tid initial : Nat) (slot : Option Nat)
      (registered : p.register tid initial = .ok (slot, q)) (free : ∀ i ∈ slot, i ∉ blocked)
      (low : initial ≤ p.global) : Acts blocked q r → Acts blocked p r
  /-- A thread starts with the delay of the registered thread that created it. -/
  | inherit {blocked : List Nat} {p q r : Profiler} (tid parent : Nat) (slot : Option Nat)
      (held : p.threads.Holds parent)
      (registered : p.register tid (p.account parent).paid = .ok (slot, q))
      (free : ∀ i ∈ slot, i ∉ blocked) : Acts blocked q r → Acts blocked p r
  | unregister {blocked : List Nat} {p q : Profiler} (tid overshoot : Nat) (real : tid ≠ Word.max) :
      Acts blocked (p.unregisterAfter tid overshoot) q → Acts blocked p q
  | visit {blocked : List Nat} {p q : Profiler} (kind : PointKind) (name : String) (n : Nat)
      (points : Registry) (visited : p.points.visit kind name n = some points) :
      Acts blocked { p with points := points } q → Acts blocked p q
  | shutdown {blocked : List Nat} {p q : Profiler} :
      Acts blocked p.shutdown q → Acts blocked p q

/-- A baseline round in progress from the global delay `g`: nothing is charged, no thread is
ahead of `g`, and every blocked thread noted `g` when it blocked. -/
structure Baseline (g : Nat) (blocked : List Nat) (p : Profiler) : Prop where
  active : p.active = true
  global : p.global = g
  roundStart : p.roundStart = g
  delaySize : p.delaySize = 0
  settled : ∀ i, p.threads.Holds i → (p.account i).paid ≤ g
  marked : ∀ i ∈ blocked, (p.account i).blockedAt = g

namespace Baseline

variable {g : Nat} {blocked : List Nat} {p q : Profiler} {i : Nat}

/-- The invariant reads only the accounts, the held slots and four fields. -/
theorem congr (h : Baseline g blocked p) (active : q.active = p.active) (global : q.global = p.global)
    (roundStart : q.roundStart = p.roundStart) (delaySize : q.delaySize = p.delaySize)
    (values : ∀ j, q.threads.value? j = p.threads.value? j)
    (holds : ∀ j, q.threads.Holds j → p.threads.Holds j) : Baseline g blocked q := by
  have accounts : ∀ j, q.account j = p.account j := fun j => by simp only [account, values]
  refine ⟨?_, ?_, ?_, ?_, ?_, ?_⟩
  · rw [active, h.active]
  · rw [global, h.global]
  · rw [roundStart, h.roundStart]
  · rw [delaySize, h.delaySize]
  · intro j held
    rw [accounts]
    exact h.settled j (holds j held)
  · intro j blockedJ
    rw [accounts]
    exact h.marked j blockedJ

/-- Changing one account keeps the invariant when the changed account stays at most `g` if its
slot is held, and keeps the mark `g` if its thread is blocked. -/
theorem setAccount (h : Baseline g blocked p) {f : ThreadDelay → ThreadDelay}
    (paid : p.threads.Holds i → (f (p.account i)).paid ≤ g)
    (mark : i ∈ blocked → (f (p.account i)).blockedAt = g) :
    Baseline g blocked (p.setAccount i f) := by
  refine ⟨h.active, h.global, h.roundStart, h.delaySize, ?_, ?_⟩
  · intro j held
    rw [holds_setAccount] at held
    rcases account_setAccount_cases p i f j with same | ⟨rfl, changed⟩
    · rw [same]
      exact h.settled j held
    · rw [changed]
      exact paid held
  · intro j blockedJ
    rcases account_setAccount_cases p i f j with same | ⟨rfl, changed⟩
    · rw [same]
      exact h.marked j blockedJ
    · rw [changed]
      exact mark blockedJ

theorem charge (h : Baseline g blocked p) : Baseline g blocked (p.charge i 0) := by
  apply h.setAccount
  · intro held
    have below := h.settled i held
    split
    · show min ((p.account i).paid + 0) p.cap ≤ g
      omega
    · exact below
  · intro blockedI
    split <;> exact h.marked i blockedI

theorem takeSample (h : Baseline g blocked p) (s : Sample) : Baseline g blocked (p.takeSample i s) := by
  obtain ⟨charged, samples, proposal, eq⟩ := Profiler.takeSample_eq p i s
  have charged_ok : Baseline g blocked (if charged then p.charge i p.delaySize else p) := by
    rw [h.delaySize]
    cases charged
    · exact h
    · exact h.charge
  rw [eq]
  exact charged_ok.congr rfl rfl rfl rfl (fun _ => rfl) (fun _ held => held)

/-- A held slot owes at most the debt: it is never ahead of `g`, and the oversleep credit
is for debts of the current round only, which a baseline round has none of. -/
theorem addDelays (h : Baseline g blocked p) (held : p.threads.Holds i) (overshoot : Nat) :
    Baseline g blocked (p.addDelays i overshoot) := by
  have own := h.settled i held
  simp only [Profiler.addDelays, h.active, Bool.not_true, Bool.false_eq_true, ↓reduceIte, settle,
    h.global]
  rw [if_neg (by omega)]
  split
  · apply h.setAccount
    · intro _
      simp only [payment, h.roundStart, Word.addWrap]
      rw [if_neg (by omega), Nat.add_zero, Nat.add_sub_cancel' (by omega)]
      exact Nat.mod_le _ _
    · exact h.marked i
  · exact h

theorem catchUp (h : Baseline g blocked p) (held : p.threads.Holds i) :
    Baseline g blocked (p.catchUp i) := by
  simp only [Profiler.catchUp, h.active, ↓reduceIte, reconcile]
  exact h.addDelays held 0

theorem preBlock (h : Baseline g blocked p) (held : p.threads.Holds i) :
    Baseline g (i :: blocked) (p.preBlock i) := by
  have noted := h.setAccount (i := i) (f := fun d => { d with blockedAt := p.global })
    (fun _ => h.settled i held) (fun _ => h.global)
  refine ⟨noted.active, noted.global, noted.roundStart, noted.delaySize, noted.settled, ?_⟩
  intro j blockedJ
  rcases List.mem_cons.mp blockedJ with rfl | other
  · rw [Profiler.preBlock, account_setAccount_self _ _ _ held.lt_capacity, h.global]
  · exact noted.marked j other

/-- The credit for a blocking call that began in the round is what the round inserted
meanwhile: nothing. -/
theorem postBlock (h : Baseline g blocked p) (inside : i ∈ blocked) (credited : Bool) :
    Baseline g (blocked.erase i) (p.postBlock i credited) := by
  have outer : Baseline g (blocked.erase i) p :=
    ⟨h.active, h.global, h.roundStart, h.delaySize, h.settled,
      fun j blockedJ => h.marked j (List.mem_of_mem_erase blockedJ)⟩
  have mark := h.marked i inside
  cases credited
  · exact outer
  · apply outer.setAccount
    · intro held
      simp only [h.global, mark, Nat.sub_self, Word.addWrap, Nat.add_zero]
      exact Nat.le_trans (Nat.mod_le _ _) (h.settled i held)
    · exact outer.marked i

/-- A registration claims a slot that no blocked thread holds, with a delay at most `g`. -/
theorem register (h : Baseline g blocked p) {tid initial : Nat} {slot : Option Nat}
    (registered : p.register tid initial = .ok (slot, q)) (free : ∀ i ∈ slot, i ∉ blocked)
    (low : initial ≤ g) : Baseline g blocked q := by
  cases slot with
  | none => rwa [register_none registered]
  | some i =>
    obtain ⟨-, global, active, roundStart, delaySize, -, fresh, others, holds⟩ :=
      register_some registered
    have unblocked := free i rfl
    refine ⟨active ▸ h.active, global ▸ h.global, roundStart ▸ h.roundStart,
      delaySize ▸ h.delaySize, ?_, ?_⟩
    · intro j held
      by_cases same : j = i
      · rw [same, fresh]
        exact low
      · rw [others j same]
        exact h.settled j ((holds j held).resolve_left same)
    · intro j blockedJ
      have other : j ≠ i := fun same => unblocked (same ▸ blockedJ)
      rw [others j other]
      exact h.marked j blockedJ

/-- Unregistering reconciles the thread's slot, which holds it, and releases the slot. -/
theorem unregisterAfter (h : Baseline g blocked p) {tid : Nat} (real : tid ≠ Word.max)
    (overshoot : Nat) : Baseline g blocked (p.unregisterAfter tid overshoot) := by
  rcases unregisterAfter_eq p tid overshoot with same | ⟨i, found, t, values, holds, eq⟩
  · rwa [same]
  · have reconciled := h.addDelays (ThreadTable.holds_of_find? found real) overshoot
    rw [eq]
    exact reconciled.congr rfl rfl rfl rfl values holds

theorem visit (h : Baseline g blocked p) (points : Registry) :
    Baseline g blocked { p with points := points } :=
  h.congr rfl rfl rfl rfl (fun _ => rfl) (fun _ held => held)

theorem shutdown (h : Baseline g blocked p) : Baseline g blocked p.shutdown := by
  unfold Profiler.shutdown
  split
  · exact h
  · exact h.congr rfl rfl rfl rfl (fun _ => rfl) (fun _ held => held)

end Baseline

/-- Whatever the threads do during a baseline round keeps it one, with the threads still inside
a blocking call at the end marked. -/
theorem Acts.baseline {g : Nat} {blocked : List Nat} {p q : Profiler} (acts : Acts blocked p q)
    (h : Baseline g blocked p) : ∃ still, Baseline g still q := by
  -- the blocked slots change along the run, so each step's lemma hands the next one its own
  induction acts with
  | done => exact ⟨_, h⟩
  | sample i s _ ih => exact ih (h.takeSample s)
  | addDelays i overshoot held _ ih => exact ih (h.addDelays held overshoot)
  | catchUp i held _ ih => exact ih (h.catchUp held)
  | preBlock i held _ ih => exact ih (h.preBlock held)
  | postBlock i credited inside _ ih => exact ih (h.postBlock inside credited)
  | register tid initial slot registered free low _ ih =>
    exact ih (h.register registered free (h.global ▸ low))
  | inherit tid parent slot held registered free _ ih =>
    exact ih (h.register registered free (h.settled parent held))
  | unregister tid overshoot real _ ih => exact ih (h.unregisterAfter real overshoot)
  | visit kind name n points _ _ ih => exact ih (h.visit points)
  | shutdown _ ih => exact ih h.shutdown

/-- An inactive profiler at global delay 9 with three slots: one thread behind the global
delay, one at it, and a free slot. -/
def settledThreads : Profiler :=
  { engine := EngineSettings.default, map := ⟨[], []⟩, samples := [], points := Registry.create 0,
    threads := ⟨[⟨.holds 5, ⟨3, 0⟩⟩, ⟨.holds 7, ⟨9, 0⟩⟩, ⟨.empty, ⟨0, 0⟩⟩]⟩, global := 9,
    delaySize := 0, active := false, roundStart := 0, selected := none, proposal := none,
    running := true, endToEnd := false }

/-- A baseline round begun at global delay 9 over a thread still 1000 ahead of it: a charge
left over from an earlier round. -/
def leftoverCharge : Profiler :=
  { settledThreads with
    threads := ⟨[⟨.holds 5, ⟨1009, 0⟩⟩]⟩, active := true, roundStart := 9, selected := some 0 }

/-- Without the second condition the round inserts delay too: a thread registered again inside
its own blocking call loses its mark, is credited the whole global delay and catches up. -/
theorem reregistered_block_raises_global :
    let p := { leftoverCharge with threads := ⟨[⟨.holds 5, ⟨9, 0⟩⟩]⟩ }
    let rejoined := match (p.preBlock 0).register 5 9 with
      | .ok (_, q) => q
      | .error _ => p
    ((rejoined.postBlock 0 true).catchUp 0).global = p.global + 9 :=
  rfl

end CausalProfiler.Profiler
