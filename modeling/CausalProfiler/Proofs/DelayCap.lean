import CausalProfiler.Proofs.Accounts
import Mathlib.Logic.Relation
import Mathlib.Logic.Function.Basic
/-!
# The delay cap under interleaved reconciliations

`Profiler.addDelays` takes a reconciliation as one atomic step. A thread makes it in four: it
loads the global delay, loads its own delay, sleeps off its debt, and then raises the global
delay (`fetch_max`) or adds its payment to its own delay (`fetch_add`). Meanwhile the
controller charges samples. `Step` is that finer semantics. Each slot's reconciliation has a
`Reconciling` phase, and the last step is `Profiler.settle` on what was loaded.

* The final `fetch_add` adds the payment to the delay the thread has *now*. A charge that lands
  between the thread's load of its own delay and that `fetch_add` is kept, and the debt is paid
  on top of it, so the thread ends above the cap (`charge_during_sleep_passes_cap`).
* Without such a charge, every interleaving keeps every registered thread's delay and the
  global delay at most the experiment's cap (`delays_stay_under_cap`).
-/
namespace CausalProfiler.Profiler

/-- How far a slot's reconciliation has got: none in flight, the global delay loaded, or that
and the slot's own delay loaded. -/
inductive Reconciling where
  | idle
  | loaded (global : Nat)
  | read (global own : Nat)
deriving DecidableEq

/-- The profiler and the reconciliation in flight on each slot. -/
structure Shared where
  profiler : Profiler
  phase : Nat → Reconciling

/-- One atomic step during an experiment, whose threads take the active path of a
reconciliation. With `exact`, no thread is charged between its load of its own delay and its
final update. -/
inductive Step (exact : Bool) : Shared → Shared → Prop
  /-- The controller attributes a sample of a slot's thread; one of the selected line charges
  it. -/
  | sample {s : Shared} (i : Nat) (smp : Sample)
      (quiet : exact = true → ∀ g o, s.phase i ≠ .read g o) :
      Step exact s ⟨s.profiler.takeSample i smp, s.phase⟩
  | loadGlobal {s : Shared} (i : Nat) (held : s.profiler.threads.Holds i)
      (idle : s.phase i = .idle) :
      Step exact s ⟨s.profiler, Function.update s.phase i (.loaded s.profiler.global)⟩
  | loadOwn {s : Shared} (i g : Nat) (loaded : s.phase i = .loaded g) :
      Step exact s ⟨s.profiler, Function.update s.phase i (.read g (s.profiler.account i).paid)⟩
  /-- Having slept off any debt, with some oversleep, the thread raises the global delay or
  adds its payment. -/
  | settle {s : Shared} (i g o overshoot : Nat) (read : s.phase i = .read g o) :
      Step exact s ⟨s.profiler.settle i g o overshoot, Function.update s.phase i .idle⟩
  /-- A thread registers with a delay at most the cap; a thread registers itself, so never
  into a slot whose reconciliation is in flight. -/
  | register {s : Shared} (tid initial : Nat) (slot : Option Nat) (q : Profiler)
      (registered : s.profiler.register tid initial = .ok (slot, q))
      (low : initial ≤ s.profiler.cap) (idle : ∀ i ∈ slot, s.phase i = .idle) :
      Step exact s ⟨q, s.phase⟩

/-- Every reconciliation in flight belongs to a registered thread and loaded a global delay no
larger than the current one; one that loaded its own delay still finds it in its account. -/
structure Shared.Consistent (s : Shared) : Prop where
  loaded : ∀ i g, s.phase i = .loaded g → s.profiler.threads.Holds i ∧ g ≤ s.profiler.global
  read : ∀ i g o, s.phase i = .read g o →
    s.profiler.threads.Holds i ∧ g ≤ s.profiler.global ∧ (s.profiler.account i).paid = o

/-- The experiment's cap is `C`, and neither the global delay nor a registered thread's delay
passes it. -/
structure Capped (C : Nat) (s : Shared) : Prop where
  cap : s.profiler.cap = C
  global : s.profiler.global ≤ C
  accounts : ∀ i, s.profiler.threads.Holds i → (s.profiler.account i).paid ≤ C
  consistent : s.Consistent

section Frame

variable {s t : Shared}

/-- Consistency carries over a step that keeps registered threads registered, does not lower
the global delay, leaves every reconciliation in flight where it was, and does not touch the
accounts of the slots that loaded their own delay. -/
theorem Shared.Consistent.frame (h : s.Consistent)
    (holds : ∀ i, s.profiler.threads.Holds i → t.profiler.threads.Holds i)
    (global : s.profiler.global ≤ t.profiler.global)
    (phase : ∀ i, t.phase i ≠ .idle → t.phase i = s.phase i)
    (accounts : ∀ i g o, t.phase i = .read g o →
      (t.profiler.account i).paid = (s.profiler.account i).paid) :
    t.Consistent := by
  constructor
  · intro i g loaded
    rw [phase i (by rw [loaded]; exact Reconciling.noConfusion)] at loaded
    obtain ⟨held, below⟩ := h.loaded i g loaded
    exact ⟨holds i held, Nat.le_trans below global⟩
  · intro i g o read
    have unchanged := accounts i g o read
    rw [phase i (by rw [read]; exact Reconciling.noConfusion)] at read
    obtain ⟨held, below, own⟩ := h.read i g o read
    exact ⟨holds i held, Nat.le_trans below global, unchanged.trans own⟩

end Frame

/-- A charge leaves a slot at most at the larger of its delay and the cap. -/
theorem paid_charge_le (p : Profiler) (i amount j : Nat) :
    ((p.charge i amount).account j).paid ≤ max (p.account j).paid p.cap := by
  rcases account_setAccount_cases p i _ j with same | ⟨rfl, changed⟩
  · rw [charge, same]
    exact Nat.le_max_left _ _
  · rw [charge, changed]
    split
    · exact Nat.le_trans (Nat.min_le_right _ _) (Nat.le_max_right _ _)
    · exact Nat.le_max_left _ _

namespace Capped

variable {C : Nat} {s : Shared}

theorem sample (h : Capped C s) (i : Nat) (smp : Sample) (quiet : ∀ g o, s.phase i ≠ .read g o) :
    Capped C ⟨s.profiler.takeSample i smp, s.phase⟩ := by
  obtain ⟨charged, samples, proposal, eq⟩ := takeSample_eq s.profiler i smp
  -- the sample changes the counts and the proposal, and possibly charges slot `i`
  have accounts : ∀ j, ((s.profiler.takeSample i smp).account j).paid ≤
      max (s.profiler.account j).paid C ∧
      (j ≠ i → (s.profiler.takeSample i smp).account j = s.profiler.account j) := by
    intro j
    rw [eq]
    cases charged
    · exact ⟨Nat.le_max_left _ _, fun _ => rfl⟩
    · exact ⟨h.cap ▸ paid_charge_le _ _ _ _, fun other => account_charge_other _ other⟩
  have holds : ∀ j, (s.profiler.takeSample i smp).threads.Holds j ↔ s.profiler.threads.Holds j := by
    intro j
    rw [eq]
    cases charged
    · rfl
    · exact holds_setAccount _ _ _ _
  have global : (s.profiler.takeSample i smp).global = s.profiler.global := by
    rw [eq]
    cases charged <;> rfl
  have cap : (s.profiler.takeSample i smp).cap = s.profiler.cap := by
    rw [eq]
    cases charged <;> rfl
  refine ⟨cap.trans h.cap, global ▸ h.global, fun j held => ?_, ?_⟩
  · exact Nat.le_trans (accounts j).1 (Nat.max_le.mpr ⟨h.accounts j ((holds j).mp held), Nat.le_refl C⟩)
  · refine h.consistent.frame (fun j held => (holds j).mpr held) (Nat.le_of_eq global.symm)
      (fun _ _ => rfl) fun j g o read => ?_
    have other : j ≠ i := fun same => quiet g o (same ▸ read)
    rw [(accounts j).2 other]

theorem loadGlobal (h : Capped C s) {i : Nat} (held : s.profiler.threads.Holds i) :
    Capped C ⟨s.profiler, Function.update s.phase i (.loaded s.profiler.global)⟩ := by
  refine ⟨h.cap, h.global, h.accounts, ⟨fun j g loaded => ?_, fun j g o read => ?_⟩⟩
  · rcases eq_or_ne j i with rfl | other
    · simp only [Function.update_self, Reconciling.loaded.injEq] at loaded
      exact ⟨held, Nat.le_of_eq loaded.symm⟩
    · simp only [Function.update_of_ne other] at loaded
      exact h.consistent.loaded j g loaded
  · rcases eq_or_ne j i with rfl | other
    · simp only [Function.update_self, reduceCtorEq] at read
    · simp only [Function.update_of_ne other] at read
      exact h.consistent.read j g o read

theorem loadOwn (h : Capped C s) {i g : Nat} (loaded : s.phase i = .loaded g) :
    Capped C ⟨s.profiler, Function.update s.phase i (.read g (s.profiler.account i).paid)⟩ := by
  refine ⟨h.cap, h.global, h.accounts, ⟨fun j g' loaded' => ?_, fun j g' o read => ?_⟩⟩
  · rcases eq_or_ne j i with rfl | other
    · simp only [Function.update_self, reduceCtorEq] at loaded'
    · simp only [Function.update_of_ne other] at loaded'
      exact h.consistent.loaded j g' loaded'
  · rcases eq_or_ne j i with rfl | other
    · simp only [Function.update_self, Reconciling.read.injEq] at read
      obtain ⟨rfl, rfl⟩ := read
      obtain ⟨held, below⟩ := h.consistent.loaded j g loaded
      exact ⟨held, below, rfl⟩
    · simp only [Function.update_of_ne other] at read
      exact h.consistent.read j g' o read

/-- Paid on top of the delay it was computed from, a payment brings a slot behind a loaded
global delay at most to the cap: the debt up to that global delay, and an oversleep credit up to
the cap. -/
theorem paid_after_payment (p : Profiler) {global own overshoot : Nat} (below : global ≤ p.cap)
    (behind : own ≤ global) : Word.addWrap own (p.payment global own overshoot) ≤ p.cap := by
  have credit : (if p.roundStart ≤ own then min overshoot (p.cap - global) else 0) ≤ p.cap - global := by
    split
    · exact Nat.min_le_right _ _
    · exact Nat.zero_le _
  calc Word.addWrap own (p.payment global own overshoot)
      ≤ own + p.payment global own overshoot := Nat.mod_le _ _
    _ ≤ p.cap := by
      simp only [payment]
      omega

theorem settle (h : Capped C s) {i g o : Nat} (overshoot : Nat) (read : s.phase i = .read g o) :
    Capped C ⟨s.profiler.settle i g o overshoot, Function.update s.phase i .idle⟩ := by
  obtain ⟨held, below, own⟩ := h.consistent.read i g o read
  have ownCapped : o ≤ C := own ▸ h.accounts i held
  have loadedCapped : g ≤ C := Nat.le_trans below h.global
  -- the slot's phase goes back to idle; every other phase stays
  have phase : ∀ j, Function.update s.phase i .idle j ≠ .idle →
      Function.update s.phase i .idle j = s.phase j := by
    intro j busy
    rcases eq_or_ne j i with rfl | other
    · exact absurd (Function.update_self _ _ _) busy
    · exact Function.update_of_ne other _ _
  have others : ∀ j g' o', Function.update s.phase i .idle j = .read g' o' → j ≠ i := by
    intro j g' o' read' same
    rw [same, Function.update_self] at read'
    cases read'
  unfold Profiler.settle
  split
  · -- ahead: the global delay rises to the slot's own, which is capped
    refine ⟨h.cap, Nat.max_le.mpr ⟨h.global, ownCapped⟩, h.accounts, ?_⟩
    exact h.consistent.frame (fun _ held => held) (Nat.le_max_left _ _) phase (fun _ _ _ _ => rfl)
  · split
    · -- behind: the slot pays, and only its account changes
      refine ⟨h.cap, h.global, fun j held' => ?_, ?_⟩
      · rw [holds_setAccount] at held'
        rcases account_setAccount_cases s.profiler i _ j with same | ⟨rfl, changed⟩
        · rw [same]
          exact h.accounts j held'
        · rw [changed]
          show Word.addWrap (s.profiler.account j).paid (s.profiler.payment g o overshoot) ≤ C
          rw [own]
          exact Nat.le_trans (paid_after_payment s.profiler (h.cap ▸ loadedCapped) (by omega))
            (Nat.le_of_eq h.cap)
      · refine h.consistent.frame (fun j held' => (holds_setAccount _ _ _ _).mpr held')
          (Nat.le_refl _) phase fun j g' o' read' => ?_
        rw [account_setAccount_other _ _ _ (others j g' o' read')]
    · exact ⟨h.cap, h.global, h.accounts,
        h.consistent.frame (fun _ held => held) (Nat.le_refl _) phase (fun _ _ _ _ => rfl)⟩

theorem register (h : Capped C s) {tid initial : Nat} {slot : Option Nat} {q : Profiler}
    (registered : s.profiler.register tid initial = .ok (slot, q)) (low : initial ≤ s.profiler.cap)
    (idle : ∀ i ∈ slot, s.phase i = .idle) : Capped C ⟨q, s.phase⟩ := by
  cases slot with
  | none =>
    rw [register_none registered]
    exact h
  | some k =>
    obtain ⟨-, global, -, -, -, cap, fresh, others, holds⟩ := register_some registered
    refine ⟨cap.trans h.cap, global ▸ h.global, fun j held => ?_, ?_⟩
    · rcases holds j held with rfl | old
      · rw [fresh]
        exact h.cap ▸ low
      · by_cases same : j = k
        · rw [same, fresh]
          exact h.cap ▸ low
        · rw [others j same]
          exact h.accounts j old
    · refine h.consistent.frame (fun j held => holds_register registered held)
        (Nat.le_of_eq global.symm) (fun _ _ => rfl) fun j g o read => ?_
      -- the claimed slot has no reconciliation in flight, so it is not `j`
      have other : j ≠ k := fun same => by
        rw [same, idle k rfl] at read
        cases read
      rw [others j other]

/-- Each step keeps the cap, provided no thread is charged in the middle of a
reconciliation. -/
theorem step (h : Capped C s) {t : Shared} (step : Step true s t) : Capped C t := by
  cases step with
  | sample i smp quiet => exact h.sample i smp (quiet rfl)
  | loadGlobal i held _ => exact h.loadGlobal held
  | loadOwn i g loaded => exact h.loadOwn loaded
  | settle i g o overshoot read => exact h.settle overshoot read
  | register tid initial slot q registered low idle => exact h.register registered low idle

theorem run (h : Capped C s) {t : Shared} (run : Relation.ReflTransGen (Step true) s t) :
    Capped C t := by
  induction run with
  | refl => exact h
  | tail _ last ih => exact ih.step last

end Capped

/-- **The per-experiment delay cap**, for interleaved reconciliations. Start when an experiment
begins, at the global delay, with every registered thread's delay at most the cap and every
reconciliation in flight consistent. Then every interleaving of samples, registrations at most
the cap and the steps of reconciliations keeps the global delay and every registered thread's
delay at most the cap, as long as no thread is charged between its load of its own delay and its
final update. -/
theorem delays_stay_under_cap {s t : Shared} (begins : s.profiler.roundStart = s.profiler.global)
    (word : s.profiler.global ≤ Word.max)
    (settled : ∀ i, s.profiler.threads.Holds i → (s.profiler.account i).paid ≤ s.profiler.cap)
    (consistent : s.Consistent) (run : Relation.ReflTransGen (Step true) s t) :
    t.profiler.cap = s.profiler.cap ∧ t.profiler.global ≤ s.profiler.cap ∧
      ∀ i, t.profiler.threads.Holds i → (t.profiler.account i).paid ≤ s.profiler.cap := by
  have global : s.profiler.global ≤ s.profiler.cap := by
    simp only [cap, Word.addSat, begins]
    exact Nat.le_min.mpr ⟨Nat.le_add_right _ _, word⟩
  have final := Capped.run ⟨rfl, global, settled, consistent⟩ run
  exact ⟨final.cap, final.global, final.accounts⟩

/-- An experiment begun at global delay 50 with a cap of 150, over one thread at delay 0.
Samples of the selected line charge 200. -/
def sleeper : Shared :=
  ⟨{ engine := { EngineSettings.default with maxDelayPerExperiment := 100 },
     map := ⟨[⟨"hot.rs", 10, false⟩], [⟨4096, 4352, 0⟩]⟩, samples := [0],
     points := Registry.create 0, threads := ⟨[⟨.holds 5, ⟨0, 0⟩⟩]⟩, global := 50,
     delaySize := 200, active := true, roundStart := 50, selected := some 0, proposal := none,
     running := true, endToEnd := false }, fun _ => .idle⟩

/-- Without the condition the cap fails. The thread loads the global delay 50 and its own
delay 0. A sample charges it to the cap while it sleeps off its debt of 50, and its payment
lands on top of the charge, at 200. -/
theorem charge_during_sleep_passes_cap :
    sleeper.profiler.roundStart = sleeper.profiler.global ∧
      (∀ i, sleeper.profiler.threads.Holds i →
        (sleeper.profiler.account i).paid ≤ sleeper.profiler.cap) ∧
      ∃ t, Relation.ReflTransGen (Step false) sleeper t ∧ t.profiler.threads.Holds 0 ∧
        sleeper.profiler.cap < (t.profiler.account 0).paid := by
  have settled : ∀ i, sleeper.profiler.threads.Holds i →
      (sleeper.profiler.account i).paid ≤ sleeper.profiler.cap := by
    intro i held
    have bound := held.lt_capacity
    simp only [ThreadTable.capacity, sleeper, List.length_cons, List.length_nil] at bound
    rcases i with _ | i
    · decide
    · omega
  have run : Relation.ReflTransGen (Step false) sleeper _ :=
    .head (Step.loadGlobal 0 ⟨_, rfl, _, rfl⟩ rfl) <|
    .head (Step.loadOwn 0 50 rfl) <|
    .head (Step.sample 0 ⟨4096, []⟩ fun never => absurd never Bool.false_ne_true) <|
    .head (Step.settle 0 50 0 0 rfl) .refl
  exact ⟨rfl, settled, _, run, ⟨_, rfl, _, rfl⟩, by decide⟩

/-- `sleeper` with threads at delays 0, 60 and 120. -/
def threeThreads : Shared :=
  ⟨{ sleeper.profiler with
     threads := ⟨[⟨.holds 5, ⟨0, 0⟩⟩, ⟨.holds 7, ⟨60, 0⟩⟩, ⟨.holds 9, ⟨120, 0⟩⟩]⟩ }, fun _ => .idle⟩

/-- The thread at 120 raises the global delay to 120. The thread at 60 then pays its debt of 60
with an oversleep of 1000, credited only up to the cap, while the thread at 0 is charged up to
the cap. -/
theorem three_threads_stay_under_cap :
    threeThreads.profiler.roundStart = threeThreads.profiler.global ∧
      threeThreads.profiler.global ≤ Word.max ∧
      (∀ i, threeThreads.profiler.threads.Holds i →
        (threeThreads.profiler.account i).paid ≤ threeThreads.profiler.cap) ∧
      threeThreads.Consistent ∧
      ∃ t, Relation.ReflTransGen (Step true) threeThreads t ∧ (t.profiler.account 1).paid = 150 ∧
        t.profiler.cap = threeThreads.profiler.cap ∧ t.profiler.global ≤ threeThreads.profiler.cap ∧
        ∀ i, t.profiler.threads.Holds i → (t.profiler.account i).paid ≤ threeThreads.profiler.cap := by
  have settled : ∀ i, threeThreads.profiler.threads.Holds i →
      (threeThreads.profiler.account i).paid ≤ threeThreads.profiler.cap := by
    intro i held
    have bound := held.lt_capacity
    simp only [ThreadTable.capacity, threeThreads, List.length_cons, List.length_nil] at bound
    rcases i with _ | _ | _ | i
    · decide
    · decide
    · decide
    · omega
  have consistent : threeThreads.Consistent :=
    ⟨fun _ _ loaded => (by cases loaded), fun _ _ _ read => (by cases read)⟩
  have run : Relation.ReflTransGen (Step true) threeThreads _ :=
    .head (Step.loadGlobal 2 ⟨_, rfl, _, rfl⟩ rfl) <|
    .head (Step.loadOwn 2 50 rfl) <|
    .head (Step.settle 2 50 120 0 rfl) <|
    .head (Step.loadGlobal 1 ⟨_, rfl, _, rfl⟩ rfl) <|
    .head (Step.loadOwn 1 120 rfl) <|
    .head (Step.sample 0 ⟨4096, []⟩ fun _ _ _ idle => by cases idle) <|
    .head (Step.settle 1 120 60 1000 rfl) .refl
  exact ⟨rfl, by decide, settled, consistent, _, run, by decide,
    delays_stay_under_cap rfl (by decide) settled consistent run⟩

end CausalProfiler.Profiler
