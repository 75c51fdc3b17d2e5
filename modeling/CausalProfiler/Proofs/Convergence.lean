import CausalProfiler.Proofs.Accounts
/-!
# Convergence of the delays

During an experiment, with no charges and a clock that sleeps exactly, threads that only
reconcile drift to one value: the largest delay there was. A thread ahead raises the global
delay and one behind pays up to it, in whatever order they come, so a thread that paid early
can fall behind again when a later one raises the global delay. One pass over every registered
thread fixes the global delay at the maximum; a second pass brings every thread up to it.

The registered threads are the slots that hold a key, and `delays` lists them with their delays.
-/
namespace CausalProfiler.Profiler

/-- Every delay the protocol reads stays at most `bound` while an experiment runs. -/
structure Below (p : Profiler) (bound : Nat) : Prop where
  active : p.active = true
  global : p.global ≤ bound
  accounts : ∀ j, p.threads.Holds j → (p.account j).paid ≤ bound

section Step

variable {p : Profiler} {i : Nat}

theorem reconcile_below {bound : Nat} (h : p.Below bound) (word : bound < Word.size)
    (hi : p.threads.Holds i) : (p.reconcile i).Below bound := by
  refine ⟨by simp [h.active], ?_, ?_⟩
  · rw [reconcile_global _ _ h.active]
    exact Nat.max_le.mpr ⟨h.global, h.accounts i hi⟩
  · intro j hj
    rw [holds_reconcile] at hj
    by_cases same : j = i
    · subst same
      rw [reconcile_account_self _ _ h.active (by have := h.global; omega) hi.lt_capacity]
      exact Nat.max_le.mpr ⟨h.global, h.accounts j hj⟩
    · rw [reconcile_account_other _ _ same h.active]
      exact h.accounts j hj

theorem reconcile_reaches (active : p.active = true) :
    (p.account i).paid ≤ (p.reconcile i).global := by
  rw [reconcile_global _ _ active]
  exact Nat.le_max_right _ _

theorem global_le_reconcile (active : p.active = true) : p.global ≤ (p.reconcile i).global := by
  rw [reconcile_global _ _ active]
  exact Nat.le_max_left _ _

theorem account_le_reconcile (active : p.active = true) (word : p.global < Word.size)
    (hi : p.threads.Holds i) (j : Nat) : (p.account j).paid ≤ ((p.reconcile i).account j).paid := by
  by_cases same : j = i
  · subst same
    rw [reconcile_account_self _ _ active word hi.lt_capacity]
    exact Nat.le_max_right _ _
  · exact Nat.le_of_eq (by rw [reconcile_account_other _ _ same active])

end Step

section Run

variable {bound : Nat}

/-- The calls of a run: reconciliations of registered threads, in order. -/
abbrev reconcileAll (p : Profiler) (calls : List Nat) : Profiler := calls.foldl reconcile p

theorem reconcileAll_below {p : Profiler} {calls : List Nat} (h : p.Below bound)
    (word : bound < Word.size) (held : ∀ i ∈ calls, p.threads.Holds i) :
    (reconcileAll p calls).Below bound := by
  induction calls generalizing p with
  | nil => exact h
  | cons i rest ih =>
    apply ih (reconcile_below h word (held i (by simp)))
    intro j hj
    simpa using held j (by simp [hj])

theorem holds_reconcileAll (p : Profiler) (calls : List Nat) (j : Nat) :
    (reconcileAll p calls).threads.Holds j ↔ p.threads.Holds j := by
  induction calls generalizing p with
  | nil => rfl
  | cons i rest ih => simp [reconcileAll, ih]

/-- Values only grow: the global delay and every account of a run end at least where they
started, and every thread that reconciled left the global delay at least at its own delay. -/
theorem reconcileAll_grows {p : Profiler} {calls : List Nat} (h : p.Below bound)
    (word : bound < Word.size) (held : ∀ i ∈ calls, p.threads.Holds i) :
    p.global ≤ (reconcileAll p calls).global ∧
      (∀ j, (p.account j).paid ≤ ((reconcileAll p calls).account j).paid) ∧
      ∀ i ∈ calls, (p.account i).paid ≤ (reconcileAll p calls).global := by
  induction calls generalizing p with
  | nil => exact ⟨Nat.le_refl _, fun _ => Nat.le_refl _, by simp⟩
  | cons i rest ih =>
    have hi := held i (by simp)
    have below := reconcile_below h word hi
    have gword : p.global < Word.size := by have := h.global; omega
    obtain ⟨global, accounts, reached⟩ :=
      ih below (fun j hj => by simpa using held j (by simp [hj]))
    refine ⟨Nat.le_trans (global_le_reconcile h.active) global,
      fun j => Nat.le_trans (account_le_reconcile h.active gword hi j) (accounts j), ?_⟩
    intro j hj
    rcases List.mem_cons.mp hj with rfl | hj
    · exact Nat.le_trans (reconcile_reaches h.active) global
    · exact Nat.le_trans (account_le_reconcile h.active gword hi j) (reached j hj)

/-- Once the global delay is the bound, it stays there, and every thread that reconciles is
brought up to it for good. -/
theorem reconcileAll_settles {p : Profiler} {calls : List Nat} (h : p.Below bound)
    (word : bound < Word.size) (at_bound : p.global = bound)
    (held : ∀ i ∈ calls, p.threads.Holds i) :
    (reconcileAll p calls).global = bound ∧
      ∀ i ∈ calls, ((reconcileAll p calls).account i).paid = bound := by
  have below := reconcileAll_below h word held
  refine ⟨by have := (reconcileAll_grows h word held).1; have := below.global; omega, ?_⟩
  clear below
  induction calls generalizing p with
  | nil => simp
  | cons i rest ih =>
    have hi := held i (by simp)
    have step := reconcile_below h word hi
    have step_global : (p.reconcile i).global = bound := by
      have := global_le_reconcile (i := i) h.active
      have := step.global
      omega
    have rest_held : ∀ j ∈ rest, (p.reconcile i).threads.Holds j :=
      fun j hj => by simpa using held j (by simp [hj])
    intro j hj
    rcases List.mem_cons.mp hj with rfl | hj
    · have reached : ((p.reconcile j).account j).paid = bound := by
        rw [reconcile_account_self _ _ h.active (by omega) hi.lt_capacity]
        have := h.accounts j hi
        omega
      have grows := (reconcileAll_grows step word rest_held).2.1 j
      have stays := (reconcileAll_below step word rest_held).accounts j
        ((holds_reconcileAll _ _ _).mpr ((holds_reconcile _ _ _).mpr hi))
      change ((reconcileAll (p.reconcile j) rest).account j).paid = bound
      omega
    · exact ih step step_global rest_held j hj

end Run

section Maximum

theorem le_foldl_max (g : Nat) (ds : List (Nat × Nat)) :
    g ≤ ds.foldl (fun m e => max m e.2) g ∧ ∀ e ∈ ds, e.2 ≤ ds.foldl (fun m e => max m e.2) g := by
  induction ds generalizing g with
  | nil => simp
  | cons d rest ih =>
    obtain ⟨start, later⟩ := ih (max g d.2)
    refine ⟨Nat.le_trans (Nat.le_max_left _ _) start, ?_⟩
    intro e he
    rcases List.mem_cons.mp he with rfl | he
    · exact Nat.le_trans (Nat.le_max_right _ _) start
    · exact later e he

theorem foldl_max_le {g bound : Nat} {ds : List (Nat × Nat)} (hg : g ≤ bound)
    (hds : ∀ e ∈ ds, e.2 ≤ bound) : ds.foldl (fun m e => max m e.2) g ≤ bound := by
  induction ds generalizing g with
  | nil => exact hg
  | cons d rest ih =>
    exact ih (Nat.max_le.mpr ⟨hg, hds d (by simp)⟩) (fun e he => hds e (by simp [he]))

/-- The delays listed for the registered threads are the accounts of the slots that hold a key. -/
theorem mem_delays {p : Profiler} {e : Nat × Nat} :
    e ∈ p.delays ↔ ∃ j, p.threads.Holds j ∧ (p.account j).paid = e.2 ∧
      p.threads.slots[j]?.map Slot.key = some (.holds e.1) := by
  simp only [delays, List.mem_map, Prod.exists]
  constructor
  · rintro ⟨k, d, mem, rfl⟩
    obtain ⟨j, hj⟩ := ThreadTable.mem_entries.mp mem
    exact ⟨j, ⟨_, hj, k, rfl⟩, by simp [account, ThreadTable.value?, hj], by simp [hj]⟩
  · rintro ⟨j, ⟨s, hs, k, hk⟩, paid, key⟩
    obtain ⟨key', value⟩ := s
    simp only at hk
    subst hk
    simp only [hs, Option.map_some, Option.some.injEq, SlotKey.holds.injEq] at key
    refine ⟨k, value, ThreadTable.mem_entries.mpr ⟨j, hs⟩, ?_⟩
    simp only [account, ThreadTable.value?, hs, Option.map_some, Option.getD_some] at paid
    rw [paid, key]

theorem account_le_foldl_max {p : Profiler} {j : Nat} (hj : p.threads.Holds j) :
    (p.account j).paid ≤ p.delays.foldl (fun m e => max m e.2) p.global := by
  obtain ⟨s, hs, k, hk⟩ := hj
  have mem : (k, (p.account j).paid) ∈ p.delays :=
    mem_delays.mpr ⟨j, ⟨s, hs, k, hk⟩, rfl, by simp [hs, hk]⟩
  exact (le_foldl_max _ _).2 _ mem

end Maximum

/-- Two passes of reconciliation bring every registered thread to one delay: the largest of the
global delay and the threads' delays when the passes began. The calls are any interleaving in
which each pass reconciles every registered thread at least once. -/
theorem delays_converge_after_two_passes (p : Profiler) (active : p.active = true)
    (words : p.Words) (first second : List Nat)
    (calls : ∀ i ∈ first ++ second, p.threads.Holds i)
    (first_covers : ∀ i, p.threads.Holds i → i ∈ first)
    (second_covers : ∀ i, p.threads.Holds i → i ∈ second) :
    let q := reconcileAll p (first ++ second)
    (∀ e ∈ q.delays, e.2 = q.global) ∧
      q.global = p.delays.foldl (fun m e => max m e.2) p.global := by
  intro q
  let bound := p.delays.foldl (fun m e => max m e.2) p.global
  have word : bound < Word.size := by
    apply Nat.lt_of_le_of_lt (m := Word.size - 1) _ (by decide)
    apply foldl_max_le (by have := words.1; omega)
    intro e he
    obtain ⟨j, -, paid, -⟩ := mem_delays.mp he
    have := words.2 j
    omega
  have below : p.Below bound :=
    ⟨active, (le_foldl_max _ _).1, fun j hj => account_le_foldl_max hj⟩
  have first_held : ∀ i ∈ first, p.threads.Holds i := fun i hi => calls i (by simp [hi])
  -- the first pass lifts the global delay to every thread's starting delay, so to the bound
  let mid := reconcileAll p first
  have mid_below := reconcileAll_below below word first_held
  obtain ⟨mid_global, -, mid_reached⟩ := reconcileAll_grows below word first_held
  have mid_at_bound : mid.global = bound := by
    apply Nat.le_antisymm mid_below.global
    apply foldl_max_le mid_global
    intro e he
    obtain ⟨j, hj, paid, -⟩ := mem_delays.mp he
    rw [← paid]
    exact mid_reached j (first_covers j hj)
  -- the second pass brings every thread up to it
  have second_held : ∀ i ∈ second, mid.threads.Holds i :=
    fun i hi => (holds_reconcileAll _ _ _).mpr (calls i (by simp [hi]))
  obtain ⟨end_global, end_accounts⟩ :=
    reconcileAll_settles mid_below word mid_at_bound second_held
  have split : q = reconcileAll mid second := List.foldl_append ..
  refine ⟨?_, by rw [split]; exact end_global⟩
  intro e he
  obtain ⟨j, hj, paid, -⟩ := mem_delays.mp he
  rw [← paid, split, end_global]
  apply end_accounts j (second_covers j _)
  rw [split, holds_reconcileAll, holds_reconcileAll] at hj
  exact hj

/-- Two threads around a global delay of 4: the first, at 3, pays up to 4 in the first pass and
falls behind again when the second raises the global delay to 9. -/
def twoThreads : Profiler :=
  { engine := EngineSettings.default, map := ⟨[], []⟩, samples := [], points := Registry.create 0,
    threads := ⟨[⟨.holds 5, ⟨3, 0⟩⟩, ⟨.holds 7, ⟨9, 0⟩⟩]⟩, global := 4, delaySize := 0,
    active := true, roundStart := 0, selected := none, proposal := none, running := true,
    endToEnd := false }

theorem two_threads_converge :
    twoThreads.active = true ∧ twoThreads.Words ∧
      (∀ i ∈ [0, 1] ++ [0, 1], twoThreads.threads.Holds i) ∧
      (∀ i, twoThreads.threads.Holds i → i ∈ [0, 1]) ∧
      (∀ e ∈ (reconcileAll twoThreads ([0, 1] ++ [0, 1])).delays,
        e.2 = (reconcileAll twoThreads ([0, 1] ++ [0, 1])).global) ∧
      (reconcileAll twoThreads ([0, 1] ++ [0, 1])).global = 9 := by
  have active : twoThreads.active = true := rfl
  have words : twoThreads.Words := by
    refine ⟨by decide, fun j => ?_⟩
    match j with
    | 0 | 1 => decide
    | _ + 2 => simp [account, ThreadTable.value?, twoThreads, Word.size]
  have calls : ∀ i ∈ [0, 1] ++ [0, 1], twoThreads.threads.Holds i := by
    intro i hi
    simp only [List.cons_append, List.nil_append, List.mem_cons, List.not_mem_nil, or_false] at hi
    rcases hi with rfl | rfl | rfl | rfl <;> exact ⟨_, rfl, _, rfl⟩
  have covers : ∀ i, twoThreads.threads.Holds i → i ∈ [0, 1] := by
    intro i hi
    have := hi.lt_capacity
    simp only [ThreadTable.capacity, twoThreads, List.length_cons, List.length_nil] at this
    simp only [List.mem_cons, List.not_mem_nil, or_false]
    omega
  obtain ⟨equal, maximum⟩ :=
    delays_converge_after_two_passes twoThreads active words [0, 1] [0, 1] calls covers covers
  exact ⟨active, words, calls, covers, equal, by rw [maximum]; decide⟩

end CausalProfiler.Profiler
