import CausalProfiler.Proofs.ThreadExit
/-!
# The proposed line

Outside an experiment the first sampled line becomes the proposal for the next experiment, and
the controller's take clears it. Over any sequence of samples, starts and ends of experiments
and takes (`Profiler.SelectionStep`):

* `proposal_takeSample`: during an experiment a sample leaves the proposal as it is; outside
  one it proposes the sample's line unless a proposal is pending;
* `proposal_runSelection_of_some`: a pending proposal stays until it is taken;
* `proposal_runSelection_iff`: from no proposal, steps without a take leave a proposal exactly
  when one of their samples resolved while no experiment was active, and it is the line of the
  first such sample;
* `lineSamples_runSelection`: every resolved sample adds one to its line's count, in the
  wrapping arithmetic of the counter, whatever the experiment state;
* `proposal_is_first_idle_sample`: the three together, for the takes of any sequence of steps
  on a new profiler.
-/
namespace CausalProfiler

namespace SourceMap

/-- An id that names a line outside the profiler is an id of the map. -/
theorem lt_of_external {m : SourceMap} {id : Nat} (h : m.external id = true) :
    id < m.lines.length := by
  unfold external line? at h
  cases hl : m.lines[id]? with
  | none => simp [hl] at h
  | some l => exact (List.getElem?_eq_some_iff.mp hl).1

/-- A sample resolves only to lines outside the profiler. -/
theorem external_of_resolve? {m : SourceMap} {s : Sample} {id : Nat} (h : m.resolve? s = some id) :
    m.external id = true := by
  have caller : m.callerLine? s = some id → m.external id = true := fun found => by
    obtain ⟨ret, -, hret⟩ := List.exists_of_findSome?_eq_some found
    exact (Option.filter_eq_some_iff.mp hret).2
  unfold resolve? at h
  split at h
  · split at h
    · cases h
      assumption
    · exact caller h
  · exact caller h

theorem lt_of_resolve? {m : SourceMap} {s : Sample} {id : Nat} (h : m.resolve? s = some id) :
    id < m.lines.length :=
  lt_of_external (external_of_resolve? h)

end SourceMap

namespace Profiler

/-- The profiler operations that decide the proposal. -/
inductive SelectionStep where
  /-- A sample attributed on behalf of a slot's thread. -/
  | sample (slot : Nat) (s : Sample)
  /-- The controller starts an experiment on a line. -/
  | begin (line delaySize : Nat)
  /-- The controller ends the experiment. -/
  | finish
  /-- The controller takes the proposal. -/
  | take

/-- What a step does to the profiler. A start that faults keeps what it stored before. -/
def SelectionStep.apply (p : Profiler) : SelectionStep → Profiler
  | .sample i s => p.takeSample i s
  | .begin line delaySize => (p.beginExperiment line delaySize).1
  | .finish => p.endExperiment.2
  | .take => p.takeProposal.2

/-- Steps taken one after another. -/
def runSelection (p : Profiler) (steps : List SelectionStep) : Profiler :=
  steps.foldl SelectionStep.apply p

/-- A sample taken after the steps `pre` resolves to `l` while no experiment is active. -/
def IdleSample (p : Profiler) (pre : List SelectionStep) (s : Sample) (l : Nat) : Prop :=
  (p.runSelection pre).active = false ∧ p.map.resolve? s = some l

/-- `l` is the line of the first sample of `steps` that resolves while no experiment is
active. -/
def FirstIdleSample (p : Profiler) (steps : List SelectionStep) (l : Nat) : Prop :=
  ∃ pre i s post, steps = pre ++ .sample i s :: post ∧ p.IdleSample pre s l ∧
    ∀ pre' i' s' post' l', pre = pre' ++ .sample i' s' :: post' → ¬ p.IdleSample pre' s' l'

/-- The samples among the steps that resolve to line `id`. -/
def resolvedTo (m : SourceMap) (id : Nat) (steps : List SelectionStep) : Nat :=
  steps.countP fun
    | .sample _ s => m.resolve? s == some id
    | _ => false

variable {p : Profiler}

/-! ## One step -/

theorem map_takeSample (i : Nat) (s : Sample) : (p.takeSample i s).map = p.map := by
  obtain ⟨charged, samples, proposal, eq⟩ := takeSample_eq p i s
  rw [eq]
  cases charged <;> rfl

theorem proposal_takeSample (i : Nat) (s : Sample) :
    (p.takeSample i s).proposal =
      if p.active then p.proposal else p.proposal <|> p.map.resolve? s := by
  unfold takeSample
  cases p.map.resolve? s with
  | none => cases p.active <;> simp
  | some id =>
    cases p.active
    · simp
    · -- a charge moves only the sampled slot's account
      simp only [↓reduceIte]
      split <;> rfl

theorem samples_takeSample (i : Nat) (s : Sample) :
    (p.takeSample i s).samples =
      ((p.map.resolve? s).map fun id => p.samples.modify id (Word.addWrap · 1)).getD p.samples := by
  unfold takeSample
  cases p.map.resolve? s with
  | none => rfl
  | some id =>
    dsimp only
    split
    · split <;> rfl
    · rfl

/-- A sample adds one, wrapping, to the count of the line it resolves to, and changes no other
count. -/
theorem lineSamples_takeSample (fits : p.samples.length = p.map.lines.length) (i id : Nat)
    (s : Sample) :
    (p.takeSample i s).lineSamples id =
      if p.map.resolve? s = some id then Word.addWrap (p.lineSamples id) 1 else p.lineSamples id := by
  unfold lineSamples
  rw [samples_takeSample]
  cases hr : p.map.resolve? s with
  | none => simp
  | some id' =>
    by_cases same : id' = id
    · subst same
      have inside : id' < p.samples.length := fits ▸ SourceMap.lt_of_resolve? hr
      simp [List.getElem?_eq_getElem inside]
    · simp [same]

theorem beginExperiment_frame (line delaySize : Nat) :
    (p.beginExperiment line delaySize).1.map = p.map ∧
      (p.beginExperiment line delaySize).1.samples = p.samples ∧
      (p.beginExperiment line delaySize).1.proposal = p.proposal := by
  unfold beginExperiment
  split <;> exact ⟨rfl, rfl, rfl⟩

@[simp] theorem map_apply (st : SelectionStep) : (st.apply p).map = p.map := by
  cases st with
  | sample i s => exact map_takeSample i s
  | begin line delaySize => exact (beginExperiment_frame line delaySize).1
  | finish | take => rfl

/-- One step adds to a line's count the samples among it that resolve to the line. -/
theorem lineSamples_apply (fits : p.samples.length = p.map.lines.length) (st : SelectionStep)
    (id : Nat) (word : p.lineSamples id < Word.size) :
    (st.apply p).lineSamples id = (p.lineSamples id + resolvedTo p.map id [st]) % Word.size := by
  cases st with
  | sample i s =>
    simp only [SelectionStep.apply, lineSamples_takeSample fits, resolvedTo, List.countP_singleton,
      beq_iff_eq]
    split <;> simp [Word.addWrap, Nat.mod_eq_of_lt word]
  | begin line delaySize =>
    have same : ((SelectionStep.begin line delaySize).apply p).lineSamples id = p.lineSamples id := by
      simp only [SelectionStep.apply, lineSamples, (beginExperiment_frame line delaySize).2.1]
    simp [same, resolvedTo, Nat.mod_eq_of_lt word]
  | finish | take =>
    show p.lineSamples id = _
    simp [resolvedTo, Nat.mod_eq_of_lt word]

theorem fits_apply (fits : p.samples.length = p.map.lines.length) (st : SelectionStep) :
    (st.apply p).samples.length = (st.apply p).map.lines.length := by
  rw [map_apply]
  cases st with
  | sample i s =>
    rw [SelectionStep.apply, samples_takeSample]
    cases p.map.resolve? s <;> simp [fits]
  | begin line delaySize => rw [SelectionStep.apply, (beginExperiment_frame line delaySize).2.1, fits]
  | finish | take => exact fits

/-- Outside a take, no step clears a proposal. -/
theorem proposal_apply_of_some {l : Nat} (pending : p.proposal = some l) {st : SelectionStep}
    (notTake : st ≠ .take) : (st.apply p).proposal = some l := by
  cases st with
  | sample i s =>
    rw [SelectionStep.apply, proposal_takeSample, pending]
    split <;> rfl
  | begin line delaySize => exact (beginExperiment_frame line delaySize).2.2.trans pending
  | finish => exact pending
  | take => exact absurd rfl notTake

/-! ## Runs of steps -/

@[simp] theorem runSelection_nil : p.runSelection [] = p := rfl

@[simp] theorem runSelection_cons (st : SelectionStep) (rest : List SelectionStep) :
    p.runSelection (st :: rest) = (st.apply p).runSelection rest := rfl

theorem runSelection_append (a b : List SelectionStep) :
    p.runSelection (a ++ b) = (p.runSelection a).runSelection b :=
  List.foldl_append ..

theorem proposal_runSelection_of_some {l : Nat} (steps : List SelectionStep)
    (noTake : ∀ st ∈ steps, st ≠ .take) (pending : p.proposal = some l) :
    (p.runSelection steps).proposal = some l := by
  induction steps generalizing p with
  | nil => exact pending
  | cons st rest ih =>
    exact ih (fun st' h => noTake st' (List.mem_cons_of_mem _ h))
      (proposal_apply_of_some pending (noTake st List.mem_cons_self))

theorem idleSample_cons (st : SelectionStep) (pre : List SelectionStep) (s : Sample) (l : Nat) :
    p.IdleSample (st :: pre) s l ↔ (st.apply p).IdleSample pre s l := by
  simp only [IdleSample, runSelection_cons, map_apply]

/-- The first idle sample of steps that start with `st`: `st` itself when it is one, else the
first of the rest, run from where `st` left the profiler. -/
theorem firstIdleSample_cons (st : SelectionStep) (rest : List SelectionStep) (l : Nat) :
    p.FirstIdleSample (st :: rest) l ↔
      (∃ i s, st = .sample i s ∧ p.IdleSample [] s l) ∨
      ((∀ i s l', st = .sample i s → ¬ p.IdleSample [] s l') ∧
        (st.apply p).FirstIdleSample rest l) := by
  constructor
  · rintro ⟨pre, i, s, post, split, idle, first⟩
    cases pre with
    | nil =>
      simp only [List.nil_append, List.cons.injEq] at split
      exact .inl ⟨i, s, split.1, idle⟩
    | cons x pre =>
      simp only [List.cons_append, List.cons.injEq] at split
      obtain ⟨rfl, rest_eq⟩ := split
      refine .inr ⟨fun i' s' l' eq => first [] i' s' pre l' (by rw [eq]; rfl),
        pre, i, s, post, rest_eq, (idleSample_cons ..).mp idle, fun pre' i' s' post' l' eq => ?_⟩
      rw [← idleSample_cons]
      exact first (st :: pre') i' s' post' l' (by rw [eq]; rfl)
  · rintro (⟨i, s, rfl, idle⟩ | ⟨notIdle, pre, i, s, post, split, idle, first⟩)
    · refine ⟨[], i, s, rest, rfl, idle, fun pre' _ _ _ _ eq => ?_⟩
      simp at eq
    · refine ⟨st :: pre, i, s, post, by rw [split]; rfl, (idleSample_cons ..).mpr idle,
        fun pre' i' s' post' l' eq => ?_⟩
      cases pre' with
      | nil =>
        simp only [List.nil_append, List.cons.injEq] at eq
        exact notIdle i' s' l' eq.1
      | cons y pre' =>
        simp only [List.cons_append, List.cons.injEq] at eq
        obtain ⟨rfl, eq'⟩ := eq
        rw [idleSample_cons]
        exact first pre' i' s' post' l' eq'

/-- From no proposal, steps without a take leave a proposal exactly when one of their samples
resolved while no experiment was active: the line of the first of them. -/
theorem proposal_runSelection_iff (steps : List SelectionStep) (noTake : ∀ st ∈ steps, st ≠ .take)
    (none_yet : p.proposal = none) (l : Nat) :
    (p.runSelection steps).proposal = some l ↔ p.FirstIdleSample steps l := by
  induction steps generalizing p with
  | nil =>
    simp only [runSelection_nil, none_yet, reduceCtorEq, false_iff]
    rintro ⟨pre, i, s, post, split, -⟩
    simp at split
  | cons st rest ih =>
    have restNoTake : ∀ st ∈ rest, st ≠ .take := fun st' h => noTake st' (List.mem_cons_of_mem _ h)
    rw [firstIdleSample_cons, runSelection_cons]
    -- a step that proposes nothing hands the question to the rest
    have quiet : (st.apply p).proposal = none → (∀ i s l', st = .sample i s → ¬ p.IdleSample [] s l') →
        (((st.apply p).runSelection rest).proposal = some l ↔
          (∃ i s, st = .sample i s ∧ p.IdleSample [] s l) ∨
          ((∀ i s l', st = .sample i s → ¬ p.IdleSample [] s l') ∧
            (st.apply p).FirstIdleSample rest l)) := fun kept notIdle => by
      rw [ih restNoTake kept]
      constructor
      · exact fun h => .inr ⟨notIdle, h⟩
      · rintro (⟨i, s, eq, idle⟩ | ⟨-, h⟩)
        · exact absurd idle (notIdle i s l eq)
        · exact h
    cases st with
    | sample i s =>
      cases ha : p.active
      · cases hr : p.map.resolve? s with
        | some l₀ =>
          -- the sample proposes its line, and nothing later replaces it
          have proposed : ((SelectionStep.sample i s).apply p).proposal = some l₀ := by
            simp [SelectionStep.apply, proposal_takeSample, ha, hr, none_yet]
          have idle : p.IdleSample [] s l₀ := ⟨ha, hr⟩
          rw [proposal_runSelection_of_some rest restNoTake proposed]
          constructor
          · rintro ⟨⟩
            exact .inl ⟨i, s, rfl, idle⟩
          · rintro (⟨i', s', eq, idle'⟩ | ⟨notIdle, -⟩)
            · simp only [SelectionStep.sample.injEq] at eq
              obtain ⟨rfl, rfl⟩ := eq
              rw [← Option.some.inj (hr.symm.trans idle'.2)]
            · exact absurd idle (notIdle i s l₀ rfl)
        | none =>
          refine quiet (by simp [SelectionStep.apply, proposal_takeSample, ha, hr, none_yet]) ?_
          intro i' s' l' eq idle
          simp only [SelectionStep.sample.injEq] at eq
          obtain ⟨rfl, rfl⟩ := eq
          cases hr.symm.trans idle.2
      · refine quiet (by simp [SelectionStep.apply, proposal_takeSample, ha, none_yet]) ?_
        intro i' s' l' eq idle
        simp only [SelectionStep.sample.injEq] at eq
        obtain ⟨rfl, rfl⟩ := eq
        rw [IdleSample, runSelection_nil, ha] at idle
        cases idle.1
    | begin line delaySize =>
      exact quiet ((beginExperiment_frame line delaySize).2.2.trans none_yet) (by simp)
    | finish => exact quiet none_yet (by simp)
    | take => exact absurd rfl (noTake _ List.mem_cons_self)

/-- Each line's count grows by the samples that resolve to it, whatever the experiment state. -/
theorem lineSamples_runSelection (steps : List SelectionStep)
    (fits : p.samples.length = p.map.lines.length) (id : Nat) (word : p.lineSamples id < Word.size) :
    (p.runSelection steps).lineSamples id = (p.lineSamples id + resolvedTo p.map id steps) % Word.size := by
  induction steps generalizing p with
  | nil => simp [resolvedTo, Nat.mod_eq_of_lt word]
  | cons st rest ih =>
    have stepped := lineSamples_apply fits st id word
    rw [runSelection_cons, ih (fits_apply fits st) (stepped ▸ Nat.mod_lt _ (by decide)), stepped,
      map_apply, Nat.mod_add_mod, Nat.add_assoc]
    congr 2
    simp only [resolvedTo, List.countP_cons, List.countP_nil]
    omega

/-! ## A new profiler -/

theorem create_fresh (cfg : Settings) (m : SourceMap) :
    (create cfg m).map = m ∧ (create cfg m).proposal = none ∧
      (create cfg m).samples = m.lines.map fun _ => 0 := ⟨rfl, rfl, rfl⟩

/-- What a take returns is decided by the samples since the take before it, or since the start:
the line of the first that resolved while no experiment was active. A sample during an
experiment never touches the proposal, and each line's count is the number of samples that
resolved to it, whatever the experiment state, in the counter's wrapping arithmetic. -/
theorem proposal_is_first_idle_sample :
    (∀ (p : Profiler) (i : Nat) (s : Sample), p.active = true →
      (p.takeSample i s).proposal = p.proposal) ∧
    (∀ (cfg : Settings) (m : SourceMap) (pre w : List SelectionStep) (l : Nat),
      (pre = [] ∨ ∃ before, pre = before ++ [.take]) → (∀ st ∈ w, st ≠ .take) →
      (((create cfg m).runSelection (pre ++ w)).takeProposal.1 = some l ↔
        ((create cfg m).runSelection pre).FirstIdleSample w l)) ∧
    ∀ (cfg : Settings) (m : SourceMap) (steps : List SelectionStep) (id : Nat),
      ((create cfg m).runSelection steps).lineSamples id = resolvedTo m id steps % Word.size := by
  refine ⟨fun p i s active => by rw [proposal_takeSample, if_pos active], ?_, ?_⟩
  · intro cfg m pre w l since noTake
    have cleared : ((create cfg m).runSelection pre).proposal = none := by
      rcases since with rfl | ⟨before, rfl⟩
      · exact (create_fresh cfg m).2.1
      · rw [runSelection_append]
        rfl
    rw [runSelection_append]
    exact proposal_runSelection_iff w noTake cleared l
  · intro cfg m steps id
    obtain ⟨map_eq, -, samples_eq⟩ := create_fresh cfg m
    have fits : (create cfg m).samples.length = (create cfg m).map.lines.length := by
      rw [samples_eq, map_eq, List.length_map]
    have zero : (create cfg m).lineSamples id = 0 := by
      simp only [lineSamples, samples_eq, List.getElem?_map]
      cases m.lines[id]? <;> rfl
    rw [lineSamples_runSelection steps fits id (zero ▸ (by decide)), zero, Nat.zero_add, map_eq]

/-- Two samples outside an experiment, of `cold.rs:8` and then of `hot.rs:3`: the take returns
the cold line, which the first sample proposed, and each line counts its one sample. -/
theorem first_sampled_line_is_taken :
    let m : SourceMap := ⟨[⟨"/app/src/hot.rs", 3, false⟩, ⟨"/app/src/cold.rs", 8, false⟩],
      [⟨0x1000, 0x1100, 0⟩, ⟨0x2000, 0x2100, 1⟩]⟩
    let steps := [SelectionStep.sample 0 ⟨0x2010, []⟩, .sample 0 ⟨0x1010, []⟩]
    ((create Settings.default m).runSelection steps).takeProposal.1 = some 1 ∧
      ((create Settings.default m).runSelection steps).lineSamples 1 = 1 := by
  intro m steps
  have cold : m.resolve? ⟨0x2010, []⟩ = some 1 := by decide
  have hot : m.resolve? ⟨0x1010, []⟩ = some 0 := by decide
  refine ⟨(proposal_is_first_idle_sample.2.1 Settings.default m [] steps 1 (.inl rfl)
    (by simp [steps])).mpr ⟨[], 0, ⟨0x2010, []⟩, [.sample 0 ⟨0x1010, []⟩], rfl, ⟨rfl, cold⟩,
      fun pre' _ _ _ _ h => by simp at h⟩, ?_⟩
  rw [proposal_is_first_idle_sample.2.2]
  simp only [resolvedTo, steps, List.countP_cons, List.countP_nil, cold, hot]
  decide

end Profiler

end CausalProfiler
