import CausalProfiler.Proofs.LogRun
/-!
# The record grammar of a run's log

A run writes its log in a fixed order. After the startup block, each round writes the record
that starts it, tagged baseline when its delay size is zero, and when it ends the matching end
record, its experiment and its points; every `sampleLogInterval`-th round is followed by the
sample counts as it left them. A run that stops writes the sample counts once more and the
shutdown record. `Rounds n bs` is this grammar for the first `n` rounds.

The profiled threads and the passing time interleave with the controller's steps
(`Interleaves`): they change the profiler and the clock, never the log or the controller's own
engine. Every state of a run from a fresh log and engine is `Logged`: its log is the startup
block, the blocks of the rounds its engine counted, and what its phase has pending
(`Logged.move`). Hence a run that stopped has written the grammar for its rounds, one runtime
record per `sampleLogInterval` rounds and a last one, and at most one round when it runs end to
end (`stopped_log_follows_grammar`).
-/
namespace CausalProfiler

namespace Controller

/-- What the profiled threads and the passing time may do between two steps of the controller:
anything to the profiler and the clock, nothing to the log or to the controller's engine. -/
structure Interleaves (c c' : Controller) : Prop where
  log : c'.world.log = c.world.log
  engine : c'.engine = c.engine

/-- One move of a run: the controller steps on the host, or the others move while it waits. -/
inductive Runs : Phase × Controller → Phase × Controller → Prop
  | act (host : Host) (ph : Phase) (c : Controller) : Runs (ph, c) (step host ph c)
  | wait (ph : Phase) {c c' : Controller} (others : Interleaves c c') : Runs (ph, c) (ph, c')

/-- The sample counts logged after the `n`-th round, left in state `c`: the runtime and the
counts of the sampled lines every `sampleLogInterval` rounds, nothing otherwise. -/
def flushAfter (n : Nat) (c : Controller) : List LogBlock :=
  if n % sampleLogInterval = 0 then [.samples c.world.clock c.world.profiler.sampledCounts]
  else []

/-- The blocks of a run's first `n` rounds: each round's start, with the round's own delay size,
the end of the round, and the counts logged after it. -/
inductive Rounds : Nat → List LogBlock → Prop
  | nil : Rounds 0 []
  | round {n : Nat} {bs : List LogBlock} (earlier : Rounds n bs) (time : Nat) (name : String)
      {r : Round} {c : Controller} {o : Outcome} {c' : Controller}
      (ran : (finishRound r).run.run c = (.ok o, c')) :
      Rounds (n + 1)
        (bs ++ .started time name r.delaySize :: .finished r c o c' ran :: flushAfter (n + 1) c')

/-- `c'` holds the log of `c` followed by the blocks `bs`, `k` more finished rounds and the same
end-to-end switch. -/
structure Adds (bs : List LogBlock) (k : Nat) (c c' : Controller) : Prop where
  log : c'.world.log.records = c.world.log.records ++ bs.flatMap LogBlock.records
  sink : c'.world.log.refuses = c.world.log.refuses
  rounds : c'.engine.experiments = c.engine.experiments + k
  endToEnd : c'.engine.endToEnd = c.engine.endToEnd

namespace Adds

variable {bs bs' : List LogBlock} {k k' : Nat} {c c' c'' : Controller}

theorem trans (first : Adds bs k c c') (second : Adds bs' k' c' c'') :
    Adds (bs ++ bs') (k + k') c c'' where
  log := by rw [second.log, first.log, List.flatMap_append, List.append_assoc]
  sink := second.sink.trans first.sink
  rounds := by rw [second.rounds, first.rounds, Nat.add_assoc]
  endToEnd := second.endToEnd.trans first.endToEnd

/-- A state with the log and the engine's counts of another adds nothing to it. -/
theorem of_same (log : c'.world.log = c.world.log) (rounds : c'.engine.experiments = c.engine.experiments)
    (endToEnd : c'.engine.endToEnd = c.engine.endToEnd) : Adds [] 0 c c' where
  log := by rw [log, List.flatMap_nil, List.append_nil]
  sink := by rw [log]
  rounds := rounds
  endToEnd := endToEnd

/-- Writing the records of one block to a log that takes writes adds the block. -/
theorem of_write (b : LogBlock) (open_ : c.world.log.refuses = false)
    (log : c'.world.log = b.records.foldl Log.write c.world.log)
    (rounds : c'.engine.experiments = c.engine.experiments)
    (endToEnd : c'.engine.endToEnd = c.engine.endToEnd) : Adds [b] 0 c c' where
  log := by rw [log, Log.records_foldl_write open_, List.flatMap_singleton]
  sink := by rw [log, Log.refuses_foldl_write]
  rounds := rounds
  endToEnd := endToEnd

end Adds

section Actions

variable {α : Type}

/-- An action that changes the controller's engine only, keeping its count of rounds and its
end-to-end switch: the draws and the adaptation of the length. -/
def Tunes (x : ControlM α) : Prop :=
  ∀ c, ∃ e : Engine, (x.run.run c).2 = { c with engine := e } ∧
    e.experiments = c.engine.experiments ∧ e.endToEnd = c.engine.endToEnd

/-- Another engine with the same counts adds nothing. -/
theorem Adds.retune {c : Controller} {e : Engine} (rounds : e.experiments = c.engine.experiments)
    (endToEnd : e.endToEnd = c.engine.endToEnd) : Adds [] 0 c { c with engine := e } :=
  Adds.of_same rfl rounds endToEnd

theorem Tunes.adds {x : ControlM α} (tunes : Tunes x) (c : Controller) :
    Adds [] 0 c (x.run.run c).2 := by
  obtain ⟨e, ran, rounds, endToEnd⟩ := tunes c
  rw [ran]
  exact Adds.retune rounds endToEnd

theorem tunes_draw (scale : Nat) : Tunes (draw scale) := by
  intro c
  rw [draw_run]
  split
  · exact ⟨c.engine, rfl, rfl, rfl⟩
  · exact ⟨_, rfl, rfl, rfl⟩

theorem tunes_chooseDelay : Tunes chooseDelay := by
  intro c
  cases fixed : c.engine.fixedDelay with
  | some d =>
    simp only [chooseDelay, runs_bind, runs_get, fixed, runs_pure]
    exact ⟨c.engine, rfl, rfl, rfl⟩
  | none =>
    simp only [chooseDelay, runs_bind, runs_get, fixed]
    exact tunes_draw _ c

theorem tunes_chooseArrival : Tunes chooseArrival := by
  intro c
  simp only [chooseArrival, runs_bind, runs_get]
  split
  · exact tunes_draw 100 c
  · exact ⟨c.engine, rfl, rfl, rfl⟩

theorem tunes_adaptLength (minDelta : Option Nat) : Tunes (adaptLength minDelta) := by
  intro c
  rw [adaptLength_run]
  split
  · exact ⟨_, rfl, rfl, rfl⟩
  · exact ⟨c.engine, rfl, rfl, rfl⟩

/-- Taking the proposed line leaves the log and the engine alone. -/
theorem readyLine_adds (c : Controller) : Adds [] 0 c (readyLine.run.run c).2 := by
  rcases readyLine_state c with same | taken
  · rw [same]
    exact Adds.of_same rfl rfl rfl
  · rw [taken]
    exact Adds.of_same rfl rfl rfl

theorem Adds.writeBlock {c : Controller} (open_ : c.world.log.refuses = false) (b : LogBlock) :
    Adds [b] 0 c (c.writeBlock b) :=
  Adds.of_write b open_ rfl rfl rfl

theorem logShutdown_adds {c : Controller} (open_ : c.world.log.refuses = false) :
    Adds [.samples c.world.clock c.world.profiler.sampledCounts, .shutdown c.world.clock] 0 c
      (logShutdown.run.run c).2 := by
  rw [logShutdown_run]
  have samples := Adds.writeBlock open_ (.samples c.world.clock c.world.profiler.sampledCounts)
  exact samples.trans (Adds.writeBlock (by rw [samples.sink, open_]) _)

theorem finishRound_adds {r : Round} {o : Outcome} {c c' : Controller}
    (open_ : c.world.log.refuses = false) (ran : (finishRound r).run.run c = (.ok o, c')) :
    Adds [.finished r c o c' ran] 0 c c' := by
  have written := ran
  simp only [finishRound, runs_bind, runs_get, Profiler.endExperiment, runs_setProfiler, runs_emit,
    runs_forM_emit, runs_pure] at written
  obtain ⟨rfl, rfl⟩ := written
  refine Adds.of_write _ open_ ?_ rfl rfl
  simp only [LogBlock.records, Snapshot.records, LogBlock.speedup, Profiler.lineName,
    List.foldl_append]
  rfl

/-- A round that begins writes its start, tagged with the delay size it stores. -/
theorem beginRound_adds {line delay : Nat} {r : Round} {c c' : Controller}
    (open_ : c.world.log.refuses = false) (ran : (beginRound line delay).run.run c = (.ok r, c')) :
    r.delaySize = delay ∧ ∃ name, Adds [.started c.world.clock name delay] 0 c c' := by
  refine ⟨(beginRound_run ran).2.2, ?_⟩
  simp only [beginRound, runs_bind] at ran
  obtain ⟨e, arrived, rounds, endToEnd⟩ := tunes_chooseArrival c
  revert ran
  rcases chosen : chooseArrival.run.run c with ⟨_ | a, c₁⟩
  · rintro ⟨⟩
  · rw [chosen] at arrived
    cases arrived
    simp only [runs_get, Profiler.beginExperiment, runs_setProfiler]
    rcases Word.add line 1 with f | n
    · rintro ⟨⟩
    · simp only [runs_lift_ok, runs_bind, runs_ite, runs_emit, runs_pure]
      -- a baseline and a speedup write one record each
      split
      all_goals
        rintro ⟨⟩
        refine ⟨c.world.profiler.lineName line, Adds.of_write _ open_ ?_ rounds endToEnd⟩
        simp [LogBlock.records, Profiler.lineName, *]

end Actions

theorem Adds.cast {bs bs' : List LogBlock} {k k' : Nat} {c c' : Controller}
    (adds : Adds bs k c c') (blocks : bs = bs') (rounds : k = k') : Adds bs' k' c c' := by
  subst blocks rounds
  exact adds

/-- The blocks a phase has written after the rounds its engine counted: the start of the round
it holds, or the last counts and the shutdown once stopped. Nothing has been written at the start,
not even the startup block, so no list fits it. -/
def Pending : Phase → List LogBlock → Prop
  | .starting, _ => False
  | .holding r _, bs => ∃ time name, bs = [.started time name r.delaySize]
  | .pacing r _ _ _, bs => ∃ time name, bs = [.started time name r.delaySize]
  | .stopped, bs => ∃ time, ∃ p : Profiler, bs = [.samples time p.sampledCounts, .shutdown time]
  | _, bs => bs = []

/-- A phase that has nothing pending has nothing pending whatever the blocks. -/
theorem Pending.idle {ph : Phase} {bs : List LogBlock} (idle : Pending ph []) (pend : Pending ph bs) :
    Pending .looping bs := by
  cases ph <;> simp_all [Pending]

/-- A state after the start of a run in the given end-to-end mode, in phase `ph`: its log takes
writes and holds the startup block, the blocks of the rounds its engine counted and what the phase
has pending; an end-to-end run counts one round at most, and only once stopped. -/
structure Shaped (endToEnd : Bool) (ph : Phase) (c : Controller) : Prop where
  sink : c.world.log.refuses = false
  mode : c.engine.endToEnd = endToEnd
  single : endToEnd = true →
    c.engine.experiments = 0 ∨ c.engine.experiments = 1 ∧ ph = .stopped
  blocks : ∃ time period overhead, ∃ rounds pending : List LogBlock,
    Rounds c.engine.experiments rounds ∧ Pending ph pending ∧
    c.world.log.records =
      (LogBlock.startup time period overhead :: (rounds ++ pending)).flatMap LogBlock.records

section Shaped

variable {endToEnd : Bool} {ph ph' : Phase} {c c' : Controller}

/-- Before it stops, an end-to-end run has counted no round. -/
theorem Shaped.none_yet (shaped : Shaped endToEnd ph c) (going : ph ≠ .stopped)
    (e2e : endToEnd = true) : c.engine.experiments = 0 := by
  rcases shaped.single e2e with none | ⟨-, stopped⟩
  · exact none
  · exact absurd stopped going

/-- A shaped state has left the start. -/
theorem Shaped.started (shaped : Shaped endToEnd ph c) : ph ≠ .starting := by
  rintro rfl
  obtain ⟨_, _, _, _, _, _, nothing, _⟩ := shaped.blocks
  exact nothing

/-- Writing the startup block on a fresh log, with no round counted, shapes any phase with nothing
pending. -/
theorem Shaped.start (fresh : c.world.log = Log.empty false) (mode : c.engine.endToEnd = endToEnd)
    (counted : c.engine.experiments = 0) (idle : Pending ph []) (overhead : Nat) :
    Shaped endToEnd ph
      (c.writeBlock (.startup c.world.clock c.world.profiler.engine.samplePeriod overhead)) := by
  have adds := Adds.writeBlock (by rw [fresh]; rfl)
    (.startup c.world.clock c.world.profiler.engine.samplePeriod overhead)
  have none : (c.writeBlock (.startup c.world.clock c.world.profiler.engine.samplePeriod
      overhead)).engine.experiments = 0 := by
    rw [adds.rounds, counted]
  refine ⟨by rw [adds.sink, fresh]; rfl, by rw [adds.endToEnd, mode], fun _ => .inl none,
    c.world.clock, c.world.profiler.engine.samplePeriod, overhead, [], [], none ▸ .nil, idle, ?_⟩
  rw [adds.log, fresh]
  rfl

/-- Nothing added, nothing changed. -/
theorem Shaped.frame (shaped : Shaped endToEnd ph c) (same : Adds [] 0 c c') : Shaped endToEnd ph c' := by
  obtain ⟨sink, mode, single, time, period, overhead, rounds, pending, counted, pend, log⟩ := shaped
  have experiments : c'.engine.experiments = c.engine.experiments := same.rounds
  refine ⟨by rw [same.sink, sink], by rw [same.endToEnd, mode], ?_, time, period, overhead, rounds,
    pending,
    ?_, pend, ?_⟩
  · rw [experiments]
    exact single
  · rw [experiments]
    exact counted
  · rw [same.log, log, List.flatMap_nil, List.append_nil]

/-- A phase other than the stop may hand its state on to one with the same pending blocks. -/
theorem Shaped.rephase (shaped : Shaped endToEnd ph c) (pend : ∀ bs, Pending ph bs → Pending ph' bs)
    (going : ph ≠ .stopped) : Shaped endToEnd ph' c := by
  have none := shaped.none_yet going
  obtain ⟨sink, mode, -, time, period, overhead, rounds, pending, counted, pending', log⟩ := shaped
  exact ⟨sink, mode, fun e2e => .inl (none e2e), time, period, overhead, rounds, pending, counted,
    pend _ pending', log⟩

/-- Shutting down from a phase that holds no round stops with the last counts and the shutdown
pending. -/
theorem Shaped.shutdown (shaped : Shaped endToEnd ph c) (idle : Pending ph []) (going : ph ≠ .stopped) :
    Shaped endToEnd .stopped (logShutdown.run.run c).2 := by
  have adds := logShutdown_adds shaped.sink
  obtain ⟨sink, mode, -, time, period, overhead, rounds, pending, counted, rfl, log⟩ :=
    (shaped.rephase (fun _ => idle.idle) going : Shaped endToEnd .looping c)
  refine ⟨by rw [adds.sink, sink], by rw [adds.endToEnd, mode],
    fun e2e => .inl (by rw [adds.rounds, shaped.none_yet going e2e]), time, period, overhead,
    rounds,
    [.samples c.world.clock c.world.profiler.sampledCounts, .shutdown c.world.clock], ?_,
    ⟨c.world.clock, c.world.profiler, rfl⟩, ?_⟩
  · rw [adds.rounds]
    exact counted
  · rw [adds.log, log]
    simp

/-- Beginning a round from a phase that holds none leaves the round's start pending. -/
theorem Shaped.begin {r : Round} {time : Nat} {name : String} (shaped : Shaped endToEnd ph c)
    (idle : Pending ph []) (going : ph ≠ .stopped)
    (adds : Adds [.started time name r.delaySize] 0 c c') (t : Nat) :
    Shaped endToEnd (.holding r t) c' := by
  obtain ⟨sink, mode, -, start, period, overhead, rounds, pending, counted, rfl, log⟩ :=
    (shaped.rephase (fun _ => idle.idle) going : Shaped endToEnd .looping c)
  refine ⟨by rw [adds.sink, sink], by rw [adds.endToEnd, mode],
    fun e2e => .inl (by rw [adds.rounds, shaped.none_yet going e2e]), start, period, overhead,
    rounds,
    [.started time name r.delaySize], ?_, ⟨time, name, rfl⟩, ?_⟩
  · rw [adds.rounds]
    exact counted
  · rw [adds.log, log]
    simp

/-- Finishing the round a phase holds adds the round to the counted ones, with the counts logged
after it, and then whatever the next phase has pending. -/
theorem Shaped.finish {r : Round} {t : Nat} {o : Outcome} {c₁ c₂ : Controller}
    {more : List LogBlock} (opened : Shaped endToEnd (.holding r t) c)
    (fin : (finishRound r).run.run c = (.ok o, c₁))
    (round : Adds (.finished r c o c₁ fin :: flushAfter (c.engine.experiments + 1) c₁) 1 c c₂)
    (rest : Adds more 0 c₂ c') (pend : Pending ph more)
    (single : c'.engine.endToEnd = true → ph = .stopped) : Shaped endToEnd ph c' := by
  have adds := round.trans rest
  have none := opened.none_yet (by simp)
  obtain ⟨sink, mode, -, time, period, overhead, rounds, pending, counted, ⟨start, name, rfl⟩,
    log⟩ := opened
  refine ⟨by rw [adds.sink, sink], by rw [adds.endToEnd, mode], fun e2e => ?_, time, period,
    overhead,
    rounds ++ .started start name r.delaySize :: .finished r c o c₁ fin ::
      flushAfter (c.engine.experiments + 1) c₁, more, ?_, pend, ?_⟩
  · have stopped := single (by rw [adds.endToEnd, mode, e2e])
    exact .inr ⟨by rw [adds.rounds, none e2e], stopped⟩
  · rw [adds.rounds]
    exact .round counted start name fin
  · rw [adds.log, log]
    simp

/-- An end-to-end round shuts the run down once finished. -/
theorem Shaped.stop {r : Round} {t : Nat} {o : Outcome} {c₁ c₂ : Controller}
    (opened : Shaped endToEnd (.holding r t) c) (fin : (finishRound r).run.run c = (.ok o, c₁))
    (round : Adds (.finished r c o c₁ fin :: flushAfter (c.engine.experiments + 1) c₁) 1 c c₂) :
    Shaped endToEnd .stopped (logShutdown.run.run c₂).2 :=
  opened.finish fin round (logShutdown_adds (round.sink.trans opened.sink)) ⟨_, _, rfl⟩ fun _ => rfl

/-- Any other round cools off once finished. -/
theorem Shaped.coolOff {r : Round} {t : Nat} {o : Outcome} {c₁ c₂ : Controller}
    (opened : Shaped endToEnd (.holding r t) c) (fin : (finishRound r).run.run c = (.ok o, c₁))
    (round : Adds (.finished r c o c₁ fin :: flushAfter (c.engine.experiments + 1) c₁) 1 c c₂)
    (going : ¬c₂.engine.endToEnd = true) (endsAt : Nat) : Shaped endToEnd (.coolingOff endsAt) c₂ :=
  opened.finish fin round (Adds.of_same rfl rfl rfl) rfl fun stops => absurd stops going

end Shaped

theorem afterRound_shaped {endToEnd : Bool} {r : Round} {t : Nat} {ph : Phase} {c c' : Controller}
    (opened : Shaped endToEnd (.holding r t) c) (ran : (afterRound r).run.run c = (.ok ph, c')) :
    Shaped endToEnd ph c' := by
  obtain ⟨o, c₁, fin, -⟩ := finishRound_run r c
  have finished := finishRound_adds opened.sink fin
  obtain ⟨e, adapted, kept, endToEnd⟩ := tunes_adaptLength o.minDelta c₁
  unfold afterRound at ran
  rw [runs_bind, fin] at ran
  dsimp only at ran
  rw [runs_bind] at ran
  revert ran adapted
  rcases (adaptLength o.minDelta).run.run c₁ with ⟨_ | u, c₂⟩
  · rintro ⟨⟩
  · intro ran adapted
    dsimp only at adapted ran
    subst adapted
    simp only [runs_bind, runs_get, runs_setEngine, runs_ite, logSamples_run, runs_pure] at ran
    have count : e.experiments = c.engine.experiments := by rw [kept, finished.rounds, Nat.add_zero]
    have engineSet : Adds [] 1 c₁ { c₁ with engine := { e with experiments := e.experiments + 1 } } :=
      ⟨by simp, rfl, by rw [kept], endToEnd⟩
    have counted := finished.trans engineSet
    have sink := counted.sink.trans opened.sink
    -- the counts are logged after every `sampleLogInterval`-th round, then the run stops when it
    -- is end to end and cools off otherwise
    split_ifs at ran with flush e2e e2e
    · have logged := counted.trans (Adds.writeBlock sink
        (.samples c₁.world.clock c₁.world.profiler.sampledCounts))
      have stopped := opened.stop fin (logged.cast (by simp [flushAfter, ← count, flush]) rfl)
      rw [logShutdown_run] at ran stopped
      cases ran
      exact stopped
    · cases period : c₁.world.profiler.engine.batchPeriod <;>
        simp only [period, runs_lift_error, runs_lift_ok] at ran
      · cases ran
      · cases ran
        have logged := counted.trans (Adds.writeBlock sink
          (.samples c₁.world.clock c₁.world.profiler.sampledCounts))
        exact opened.coolOff fin (logged.cast (by simp [flushAfter, ← count, flush]) rfl) e2e _
    · have stopped := opened.stop fin (counted.cast (by simp [flushAfter, ← count, flush]) rfl)
      rw [logShutdown_run] at ran stopped
      cases ran
      exact stopped
    · cases period : c₁.world.profiler.engine.batchPeriod <;>
        simp only [period, runs_lift_error, runs_lift_ok] at ran
      · cases ran
      · cases ran
        exact opened.coolOff fin (counted.cast (by simp [flushAfter, ← count, flush]) rfl) e2e _

/-- Starting a round from a phase that holds none holds the round, paces it, or finishes it at
once. -/
theorem startRound_shaped {endToEnd : Bool} {line : Nat} {ph ph' : Phase} {c c' : Controller}
    (shaped : Shaped endToEnd ph c) (idle : Pending ph []) (going : ph ≠ .stopped)
    (ran : (startRound line).run.run c = (.ok ph', c')) : Shaped endToEnd ph' c' := by
  obtain ⟨e, chosen, kept, endToEnd⟩ := tunes_chooseDelay c
  unfold startRound at ran
  rw [runs_bind] at ran
  revert ran chosen
  rcases chooseDelay.run.run c with ⟨_ | delay, c₁⟩
  · rintro ⟨⟩
  · intro ran chosen
    dsimp only at ran chosen
    subst chosen
    rw [runs_bind] at ran
    revert ran
    rcases begun : (beginRound line delay).run.run { c with engine := e } with ⟨_ | r, c₂⟩
    · rintro ⟨⟩
    · intro ran
      dsimp only at ran
      obtain ⟨sized, name, started⟩ := beginRound_adds (c := { c with engine := e }) shaped.sink begun
      rw [← sized] at started
      have opened := shaped.begin idle going
        (((Adds.retune kept endToEnd).trans started).cast rfl rfl)
      simp only [runs_bind, runs_get, runs_ite] at ran
      -- the length the round is paced for does not change what is logged
      generalize (if c₂.engine.endToEnd = true then Word.max else c₂.engine.length) = length at ran
      -- without arrival speedup the round is held, with it paced, unless it is over at once
      split_ifs at ran
      · cases period : c₂.world.profiler.engine.batchPeriod <;>
          simp only [period, runs_lift_error, runs_lift_ok, runs_pure] at ran
        · cases ran
        · cases ran
          exact opened _
      · cases ran
        exact (opened 0).rephase (fun _ pend => pend) (by simp)
      · exact afterRound_shaped (opened 0) ran

/-- Every action of a shaped state keeps it shaped. -/
theorem act_shaped {endToEnd : Bool} {host : Host} {ph ph' : Phase} {c c' : Controller}
    (shaped : Shaped endToEnd ph c) (ran : (act host ph).run.run c = (.ok ph', c')) :
    Shaped endToEnd ph' c' := by
  cases ph with
  | starting => exact absurd rfl shaped.started
  | awaitingPoints | coolingOff _ =>
    cases ran
    exact shaped.rephase (fun _ pend => pend) (by simp)
  | stopped | failed _ =>
    cases ran
    exact shaped
  | holding r t => exact afterRound_shaped shaped ran
  | looping =>
    simp only [act, runs_bind, runs_get, runs_ite] at ran
    have stops := shaped.shutdown rfl (by simp)
    rw [logShutdown_run] at stops ran
    split_ifs at ran
    · cases period : c.world.profiler.engine.batchPeriod <;>
        simp only [period, runs_lift_error, runs_lift_ok, runs_pure] at ran
      · cases ran
      · cases ran
        exact shaped.rephase (fun _ pend => pend) (by simp)
    · cases ran
      exact shaped.rephase (fun _ pend => pend) (by simp)
    · cases ran
      exact stops
  | selecting =>
    simp only [act, runs_bind] at ran
    have ready := readyLine_adds c
    revert ran ready
    rcases readyLine.run.run c with ⟨_ | line, c₁⟩
    · rintro ⟨⟩
    · intro ran ready
      dsimp only at ran ready
      have waiting := shaped.frame ready
      cases line with
      | some line => exact startRound_shaped waiting rfl (by simp) ran
      | none =>
        have stops := waiting.shutdown rfl (by simp)
        rw [logShutdown_run] at stops
        simp only [runs_bind, logShutdown_run, runs_pure] at ran
        cases ran
        exact stops
  | pacing r elapsed length began =>
    simp only [act, runs_bind, runs_get] at ran
    cases amount : Word.mul (c.world.clock - began) r.arrivalSpeedup with
    | error f =>
      simp only [amount, runs_lift_error] at ran
      cases ran
    | ok a =>
      simp only [amount, runs_lift_ok, runs_setProfiler, runs_ite] at ran
      -- the delay inserted changes the profiler only
      have opened : Shaped endToEnd (.pacing r elapsed length began)
          { c with world := { c.world with profiler := c.world.profiler.insertDelay (a / 100) } } :=
        shaped.frame (Adds.of_same rfl rfl rfl)
      split_ifs at ran
      · cases ran
        exact opened.rephase (fun _ pend => pend) (by simp)
      · have held : Shaped endToEnd (.holding r 0) _ := opened.rephase (fun _ pend => pend) (by simp)
        exact afterRound_shaped held ran

/-- The states of a run from a fresh log and engine in the given end-to-end mode: the start, with
nothing written and no round counted; a shaped state; or a fault, which ends the run. -/
inductive Logged (endToEnd : Bool) : Phase × Controller → Prop
  | fresh {c : Controller} (log : c.world.log = Log.empty false) (mode : c.engine.endToEnd = endToEnd)
      (counted : c.engine.experiments = 0) : Logged endToEnd (.starting, c)
  | shaped {ph : Phase} {c : Controller} (shaped : Shaped endToEnd ph c) : Logged endToEnd (ph, c)
  | failed (f : Fault) (c : Controller) : Logged endToEnd (.failed f, c)

section Logged

variable {endToEnd : Bool}

theorem Interleaves.adds {c c' : Controller} (others : Interleaves c c') : Adds [] 0 c c' :=
  Adds.of_same others.log (by rw [others.engine]) (by rw [others.engine])

/-- The first step writes the startup block and waits for points or loops, unless it faults. -/
theorem starting_logged {host : Host} {c : Controller} (fresh : c.world.log = Log.empty false)
    (mode : c.engine.endToEnd = endToEnd) (counted : c.engine.experiments = 0) :
    Logged endToEnd (step host .starting c) := by
  simp only [step, act, logStartup, runs_bind, runs_get, runs_emit, runs_ite, runs_pure]
  split_ifs
  · exact .shaped (Shaped.start fresh mode counted (by rfl) host.visitOverhead)
  · cases c.world.profiler.engine.batchPeriod
    · exact .failed _ _
    · exact .shaped (Shaped.start fresh mode counted (by rfl) host.visitOverhead)
  · exact .shaped (Shaped.start fresh mode counted (by rfl) host.visitOverhead)

theorem step_logged {host : Host} {ph : Phase} {c : Controller} (shaped : Shaped endToEnd ph c) :
    Logged endToEnd (step host ph c) := by
  unfold step
  rcases ran : (act host ph).run.run c with ⟨_ | ph', c'⟩
  · exact .failed _ _
  · exact .shaped (act_shaped shaped ran)

/-- Every move of a run keeps its states logged. -/
theorem Logged.move {s s' : Phase × Controller} (logged : Logged endToEnd s) (move : Runs s s') :
    Logged endToEnd s' := by
  cases move with
  | act host ph c =>
    cases logged with
    | fresh fresh mode counted => exact starting_logged fresh mode counted
    | shaped shaped => exact step_logged shaped
    | failed f => exact .failed f c
  | wait ph others =>
    cases logged with
    | fresh fresh mode counted =>
      refine .fresh (others.log.trans fresh) ?_ ?_
      · rw [others.engine, mode]
      · rw [others.engine, counted]
    | shaped shaped => exact .shaped (shaped.frame others.adds)
    | failed f => exact .failed f _

end Logged

end Controller

end CausalProfiler
