import CausalProfiler.Engine.Basic
/-!
# Running controller actions

Equations that run a `ControlM` action from a controller state, one per way of building an
action, so that a proof computes an action's result and final state without unfolding the monad
transformers; and one statement per action of the controller, which later proofs cite instead of
unfolding the action: a draw (`draw_run`, through `EngineSettings.drawOf`), taking the ready line
(`readyLine_state`), beginning and finishing a round, and adapting the experiment's length
(`adaptLength_run`, through `EngineSettings.nextLength`).
-/
namespace CausalProfiler.EngineSettings

/-- The length of the next experiment after adapting `length` to a round's smallest delta, or
the fault of a doubling that leaves the word. -/
def nextLength (e : EngineSettings) (length : Nat) : Option Nat → Except Fault Nat
  | none => .ok length
  | some delta =>
    if delta < e.targetDelta then do
      let doubled ← Word.mul length 2
      pure (min doubled e.experimentMaxTime)
    else do
      let twice ← Word.mul e.targetDelta 2
      if twice < delta then
        let least ← Word.mul e.experimentMinTime 2
        pure (if least ≤ length then length / 2 else length)
      else pure length

/-- What a draw gives for outcome `r` of the generator: zero up to the weight, else the
outcome's share of `scale` in divisions, or the fault of a product that leaves the word. -/
def drawOf (e : EngineSettings) (scale r : Nat) : Except Fault Nat :=
  if r ≤ e.zeroSpeedupWeight then .ok 0
  else (Word.mul (r - e.zeroSpeedupWeight) scale).map (· / max e.speedupDivisions 1)

end CausalProfiler.EngineSettings

namespace CausalProfiler.Host

/-- A host whose sleeps last exactly as long as asked, and whose visits cost nothing. -/
def exact : Host := ⟨0, fun asked _ => asked, fun _ _ => Nat.le_refl _⟩

end CausalProfiler.Host

namespace CausalProfiler.Controller

variable {α β : Type}

theorem runs_bind (x : ControlM α) (f : α → ControlM β) (c : Controller) :
    (x >>= f).run.run c = match x.run.run c with
      | (.ok a, c') => (f a).run.run c'
      | (.error e, c') => (.error e, c') := by
  simp only [ExceptT.run_bind, StateT.run_bind]
  rcases x.run.run c with ⟨_ | _, _⟩ <;> rfl

@[simp] theorem runs_pure (a : α) (c : Controller) :
    (pure a : ControlM α).run.run c = (.ok a, c) := rfl

@[simp] theorem runs_get (c : Controller) : (get : ControlM Controller).run.run c = (.ok c, c) := rfl

@[simp] theorem runs_set (c c' : Controller) :
    (set c' : ControlM PUnit).run.run c = (.ok ⟨⟩, c') := rfl

@[simp] theorem runs_modify (f : Controller → Controller) (c : Controller) :
    (modify f : ControlM PUnit).run.run c = (.ok ⟨⟩, f c) := rfl

@[simp] theorem runs_throw (e : Fault) (c : Controller) :
    (throw e : ControlM α).run.run c = (.error e, c) := rfl

@[simp] theorem runs_lift_ok (a : α) (c : Controller) :
    (lift (.ok a) : ControlM α).run.run c = (.ok a, c) := rfl

@[simp] theorem runs_lift_error (e : Fault) (c : Controller) :
    (lift (.error e) : ControlM α).run.run c = (.error e, c) := rfl

theorem runs_ite (b : Prop) [Decidable b] (x y : ControlM α) (c : Controller) :
    (if b then x else y).run.run c = if b then x.run.run c else y.run.run c := by
  split <;> rfl

@[simp] theorem runs_emit (r : Record) (c : Controller) :
    (emit r).run.run c = (.ok ⟨⟩, { c with world := { c.world with log := c.world.log.write r } }) :=
  rfl

@[simp] theorem runs_setProfiler (p : Profiler) (c : Controller) :
    (setProfiler p).run.run c = (.ok ⟨⟩, { c with world := { c.world with profiler := p } }) := rfl

@[simp] theorem runs_setEngine (e : Engine) (c : Controller) :
    (setEngine e).run.run c = (.ok ⟨⟩, { c with engine := e }) := rfl

/-- Writing records one after another never fails and only writes them. -/
theorem runs_forM_emit (rs : List Record) (c : Controller) :
    (rs.forM emit).run.run c =
      (.ok ⟨⟩, { c with world := { c.world with log := rs.foldl Log.write c.world.log } }) := by
  induction rs generalizing c with
  | nil => rfl
  | cons r rest ih =>
    simp only [List.forM, runs_bind, runs_emit, ih, List.foldl_cons]

/-- A draw sums the weight and the divisions, draws an outcome up to the sum, and gives what
`drawOf` gives for it; it changes the generator only. -/
theorem draw_run (scale : Nat) (c : Controller) :
    (draw scale).run.run c =
      match Word.add c.world.profiler.engine.zeroSpeedupWeight
          (max c.world.profiler.engine.speedupDivisions 1) with
      | .error f => (.error f, c)
      | .ok top =>
        (c.world.profiler.engine.drawOf scale (c.engine.rng.upTo top.toUInt64).1.toNat,
          { c with engine := { c.engine with rng := (c.engine.rng.upTo top.toUInt64).2 } }) := by
  simp only [draw, runs_bind, runs_get]
  rcases Word.add c.world.profiler.engine.zeroSpeedupWeight
    (max c.world.profiler.engine.speedupDivisions 1) with f | top
  · rfl
  · simp only [runs_lift_ok, runs_setEngine, EngineSettings.drawOf]
    split
    · rfl
    · rcases Word.mul _ scale with f | m <;> rfl

/-- Drawing changes the engine's generator and nothing the profiled threads share. -/
theorem draw_world (scale : Nat) (c : Controller) : ((draw scale).run.run c).2.world = c.world := by
  rw [draw_run]
  split <;> rfl

theorem chooseArrival_world (c : Controller) : (chooseArrival.run.run c).2.world = c.world := by
  simp only [chooseArrival, runs_bind, runs_get]
  split
  · exact draw_world 100 c
  · rfl

/-- Taking the ready line changes nothing but, when there is no fixed line and the sample period
fits, the profiler's proposal, which it takes. -/
theorem readyLine_state (c : Controller) :
    (readyLine.run.run c).2 = c ∨ (readyLine.run.run c).2 =
      { c with world := { c.world with profiler := c.world.profiler.takeProposal.2 } } := by
  cases fixed : c.engine.fixedLine with
  | some line =>
    left
    simp only [readyLine, runs_bind, runs_get, fixed, runs_pure]
  | none =>
    cases period : c.world.profiler.engine.batchPeriod with
    | error f =>
      left
      simp only [readyLine, runs_bind, runs_get, fixed, period, runs_lift_error]
    | ok period =>
      right
      simp only [readyLine, runs_bind, runs_get, fixed, period, runs_lift_ok, runs_setProfiler,
        runs_pure]

/-- A round that begins has stored its delay size, its start and its line, and starts from the
global delay of the moment. -/
theorem beginRound_run {line delay : Nat} {c c₁ : Controller} {r : Round}
    (h : (beginRound line delay).run.run c = (.ok r, c₁)) :
    c₁.world.profiler = { c.world.profiler with
      delaySize := delay, roundStart := c.world.profiler.global, selected := some line,
      active := true } ∧
      r.startDelay = c.world.profiler.global ∧ r.delaySize = delay := by
  simp only [beginRound, runs_bind] at h
  have arrival := chooseArrival_world c
  revert h arrival
  rcases chooseArrival.run.run c with ⟨_ | a, c'⟩
  · rintro ⟨⟩
  · intro h (arrival : c'.world = c.world)
    simp only [runs_get, Profiler.beginExperiment, runs_setProfiler] at h
    -- the line is stored as its successor, which fails only for the largest word
    rcases hw : Word.add line 1 with f | n
    · simp only [hw, runs_lift_error] at h
      cases h
    · simp only [hw, runs_lift_ok, runs_bind, runs_ite, runs_emit, runs_pure] at h
      split at h
      all_goals
        cases h
        simp [arrival]

/-- Finishing a round never fails; it reports the global delay inserted since the round's start,
and the wall time less that delay. -/
theorem finishRound_run (r : Round) (c : Controller) :
    ∃ o c', (finishRound r).run.run c = (.ok o, c') ∧
      o.wallTime = c.world.clock - r.startTime ∧
      o.delays = c.world.profiler.global - r.startDelay ∧ o.duration = o.wallTime - o.delays := by
  simp only [finishRound, runs_bind, runs_get, Profiler.endExperiment, runs_setProfiler, runs_emit,
    runs_forM_emit, runs_pure]
  exact ⟨_, _, rfl, rfl, rfl, rfl⟩

/-- One adaptation sets the length `nextLength` gives; a fault leaves the controller as it was. -/
theorem adaptLength_run (d : Option Nat) (c : Controller) :
    (adaptLength d).run.run c =
      match c.world.profiler.engine.nextLength c.engine.length d with
      | .ok l => (.ok (), { c with engine := { c.engine with length := l } })
      | .error f => (.error f, c) := by
  cases d with
  | none => rfl
  | some delta =>
    simp only [adaptLength, EngineSettings.nextLength, runs_bind, runs_get]
    by_cases short : delta < c.world.profiler.engine.targetDelta
    · simp only [short, if_true]
      cases Word.mul c.engine.length 2 <;> rfl
    · simp only [short, if_false]
      cases Word.mul c.world.profiler.engine.targetDelta 2 with
      | error => rfl
      | ok twice =>
        simp only [runs_lift_ok, runs_bind, runs_ite]
        by_cases plenty : twice < delta
        · cases Word.mul c.world.profiler.engine.experimentMinTime 2 with
          | error => simp only [plenty, if_true, runs_lift_error, bind, Except.bind]
          | ok least =>
            simp only [plenty, if_true, runs_lift_ok]
            by_cases halves : least ≤ c.engine.length
            · simp only [halves, if_true, runs_setEngine, bind, Except.bind, pure, Except.pure,
                plenty]
            · simp only [halves, if_false, bind, Except.bind, pure, Except.pure, plenty]
              rfl
        · simp only [plenty, if_false, bind, Except.bind, pure, Except.pure]
          rfl

end CausalProfiler.Controller
