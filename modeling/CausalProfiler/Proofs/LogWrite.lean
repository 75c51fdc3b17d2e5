import CausalProfiler.Proofs.LogRead
import CausalProfiler.Proofs.Control
import CausalProfiler.Engine.Run
/-!
# The controller writes its log in blocks

Every action of the controller leaves its log as it was followed by whole, readable blocks:

* `Controller.Writes P x Q`: from a tidy state satisfying `P`, the action `x` ends in a tidy state
  whose log grew by readable blocks that start no run, whether it returns or stops at a fault,
  and `Q` holds of what it returned;
* `writes_finishRound`, `writes_beginRound`, `writes_logSamples`, `writes_logShutdown`: the
  actions that write;
* `writes_act`, `follows_step`: every action the controller takes after its start;
* `step_starting`: the first step writes the startup block.
-/
namespace CausalProfiler

namespace Log

theorem records_write {l : Log} (open_ : l.refuses = false) (r : Record) :
    (l.write r).records = l.records ++ [r] := by
  simp [write, records, open_]

theorem refuses_write (l : Log) (r : Record) : (l.write r).refuses = l.refuses := by
  unfold write
  split <;> rfl

theorem records_foldl_write {l : Log} (open_ : l.refuses = false) (rs : List Record) :
    (rs.foldl write l).records = l.records ++ rs := by
  induction rs generalizing l with
  | nil => simp
  | cons r rs ih =>
    rw [List.foldl_cons, ih (by rw [refuses_write, open_]), records_write open_, List.append_assoc]
    rfl

theorem refuses_foldl_write (l : Log) (rs : List Record) : (rs.foldl write l).refuses = l.refuses := by
  induction rs generalizing l with
  | nil => rfl
  | cons r rs ih => rw [List.foldl_cons, ih, refuses_write]

end Log

/-- What the profiler keeps for its log to read back: file names and point names that fit a
field, and sample counts that are words. -/
structure Profiler.Tidy (p : Profiler) : Prop where
  files : ∀ l ∈ p.map.lines, Record.Fits l.file
  samples : ∀ n ∈ p.samples, n ≤ Word.max
  throughput : ∀ x ∈ p.points.throughput, Record.Fits x.1
  latency : ∀ x ∈ p.points.latency, Record.Fits x.1

/-- A round whose snapshot holds only names that fit a field. -/
structure Round.Tidy (r : Round) : Prop where
  throughput : ∀ x ∈ r.points.throughput, Record.Fits x.1
  latency : ∀ x ∈ r.points.latency, Record.Fits x.1

/-- A phase that holds only tidy rounds. -/
def Phase.Tidy : Phase → Prop
  | .holding r _ | .pacing r .. => r.Tidy
  | _ => True

theorem Record.Fits.append {a b : String} (left : Record.Fits a) (right : Record.Fits b) :
    Record.Fits (a ++ b) := by
  simp only [Record.Fits, String.toList_append, List.mem_append, not_or]
  exact ⟨⟨left.1, right.1⟩, left.2, right.2⟩

/-- A text that ends in visible text ends in no return. -/
theorem getLast?_append_graphic {a b : String} (shown : Text.Graphic b) :
    (a ++ b).toList.getLast? ≠ some '\r' := by
  obtain ⟨c, last, notReturn⟩ := shown.getLast?
  rw [String.toList_append, List.getLast?_append, last]
  simpa using notReturn

namespace Profiler

variable {p : Profiler}

theorem Tidy.name_fits (tidy : p.Tidy) {l : SourceLine} (listed : l ∈ p.map.lines) :
    Record.Fits l.name :=
  ((tidy.files l listed).append (by decide)).append (Number.graphic_toString _).fits

theorem Tidy.lineName_fits (tidy : p.Tidy) (id : Nat) : Record.Fits (p.lineName id) := by
  unfold lineName
  split
  · rename_i l found
    exact tidy.name_fits (List.mem_of_getElem? found)
  · exact ((show Record.Fits "<line " by decide).append (Number.graphic_toString id).fits).append
      (by decide)

theorem lineName_ending (p : Profiler) (id : Nat) : (p.lineName id).toList.getLast? ≠ some '\r' := by
  unfold lineName
  split
  · exact getLast?_append_graphic (Number.graphic_toString _)
  · exact getLast?_append_graphic (by decide)

/-- A profiler with the files, counts and points of a tidy one is tidy. -/
theorem Tidy.of_same {q : Profiler} (tidy : p.Tidy) (map : q.map = p.map)
    (samples : q.samples = p.samples) (points : q.points = p.points) : q.Tidy :=
  ⟨map ▸ tidy.files, samples ▸ tidy.samples, points ▸ tidy.throughput, points ▸ tidy.latency⟩

theorem Tidy.lineSamples_le (tidy : p.Tidy) (id : Nat) : p.lineSamples id ≤ Word.max := by
  unfold lineSamples
  cases found : p.samples[id]? with
  | none => exact Nat.zero_le _
  | some n => exact tidy.samples n (List.mem_of_getElem? found)

/-- The lines a profiler has sampled, by name, with their counts, in the order of its map. -/
def sampledCounts (p : Profiler) : List (String × Nat) :=
  (p.map.lines.zip p.samples).filterMap fun (line, count) =>
    if 0 < count then some (line.name, count) else none

theorem Tidy.sampledCounts (tidy : p.Tidy) :
    ∀ x ∈ p.sampledCounts, Record.Fits x.1 ∧ x.2 ≤ Word.max := by
  intro x mem
  obtain ⟨⟨line, count⟩, zipped, named⟩ := List.mem_filterMap.mp mem
  have listed : line ∈ p.map.lines := (List.of_mem_zip zipped).1
  have counted : count ∈ p.samples := (List.of_mem_zip zipped).2
  by_cases sampled : 0 < count
  · simp only [sampled, if_true, Option.some.injEq] at named
    subst named
    exact ⟨tidy.name_fits listed, tidy.samples count counted⟩
  · simp [sampled] at named

end Profiler

namespace Controller

/-- A controller whose profiler is tidy, whose clock is a word and whose log takes writes. -/
structure Tidy (c : Controller) : Prop where
  profiler : c.world.profiler.Tidy
  clock : c.world.clock ≤ Word.max
  sink : c.world.log.refuses = false

/-- `c'` is tidy and its log is that of `c` followed by readable blocks that start no run. -/
structure Follows (c c' : Controller) : Prop where
  tidy : c'.Tidy
  blocks : ∃ bs : List LogBlock, (∀ b ∈ bs, b.Readable ∧ b.startsRun = false) ∧
    c'.world.log.records = c.world.log.records ++ bs.flatMap LogBlock.records

theorem Follows.refl {c : Controller} (tidy : c.Tidy) : Follows c c :=
  ⟨tidy, [], by simp, by simp⟩

theorem Follows.trans {c₁ c₂ c₃ : Controller} (first : Follows c₁ c₂) (second : Follows c₂ c₃) :
    Follows c₁ c₃ := by
  obtain ⟨-, bs, good, grown⟩ := first
  obtain ⟨tidy, bs', good', grown'⟩ := second
  refine ⟨tidy, bs ++ bs', List.forall_mem_append.mpr ⟨good, good'⟩, ?_⟩
  rw [grown', grown, List.flatMap_append, List.append_assoc]

/-- A state with the same world as a tidy one follows it without a block. -/
theorem Follows.of_world {c c' : Controller} (tidy : c.Tidy) (same : c'.world = c.world) :
    Follows c c' := by
  have kept : c'.Tidy := by
    obtain ⟨profiler, clock, sink⟩ := tidy
    exact ⟨same ▸ profiler, same ▸ clock, same ▸ sink⟩
  exact ⟨kept, [], by simp, by simp [same]⟩

/-- A state whose log took one readable block more follows. -/
theorem Follows.block {c c' : Controller} (b : LogBlock) (tidy : c'.Tidy) (readable : b.Readable)
    (quiet : b.startsRun = false) (grown : c'.world.log.records = c.world.log.records ++ b.records) :
    Follows c c' :=
  ⟨tidy, [b], by simpa using ⟨readable, quiet⟩, by simpa using grown⟩

/-- A state whose log took the records of a readable block that starts no run, with a tidy
profiler and a clock that is a word, follows. -/
theorem Follows.writes {c c' : Controller} (b : LogBlock) (tidy : c.Tidy)
    (profiler : c'.world.profiler.Tidy) (clock : c'.world.clock ≤ Word.max)
    (readable : b.Readable) (quiet : b.startsRun = false)
    (log : c'.world.log = b.records.foldl Log.write c.world.log) : Follows c c' := by
  have sink : c'.world.log.refuses = false := by
    rw [log, Log.refuses_foldl_write]
    exact tidy.sink
  refine Follows.block b ⟨profiler, clock, sink⟩ readable quiet ?_
  rw [log, Log.records_foldl_write tidy.sink]

variable {α β : Type}

/-- From a tidy state satisfying `P`, the action ends in a state that follows it, and when it
returns `a`, `Q a` holds of the state it ends in. -/
def Writes (P : Controller → Prop) (x : ControlM α) (Q : α → Controller → Prop) : Prop :=
  ∀ c, c.Tidy → P c →
    Follows c (x.run.run c).2 ∧ ∀ a, (x.run.run c).1 = .ok a → Q a (x.run.run c).2

theorem Writes.bind {P : Controller → Prop} {Q : α → Controller → Prop}
    {R : β → Controller → Prop} {x : ControlM α} {f : α → ControlM β}
    (first : Writes P x Q) (rest : ∀ a, Writes (Q a) (f a) R) : Writes P (x >>= f) R := by
  intro c tidy pre
  have ran := first c tidy pre
  rw [runs_bind]
  revert ran
  rcases x.run.run c with ⟨_ | a, c₁⟩
  · rintro ⟨follows, -⟩
    exact ⟨follows, fun _ failed => by cases failed⟩
  · rintro ⟨follows, post⟩
    have next := rest a c₁ follows.tidy (post a rfl)
    exact ⟨follows.trans next.1, next.2⟩

theorem Writes.pure {P : Controller → Prop} {Q : α → Controller → Prop} {a : α}
    (post : ∀ c, P c → Q a c) : Writes P (Pure.pure a) Q :=
  fun c tidy pre => ⟨Follows.refl tidy, fun _ returned => by cases returned; exact post c pre⟩

/-- An action that leaves the world as it is writes nothing, and keeps any fact about other
things. -/
theorem Writes.of_world {R : Prop} {x : ControlM α} (same : ∀ c, (x.run.run c).2.world = c.world) :
    Writes (fun _ => R) x (fun _ _ => R) :=
  fun c tidy holds => ⟨Follows.of_world tidy (same c), fun _ _ => holds⟩

theorem Writes.get {R : Prop} : Writes (fun _ => R) (MonadState.get : ControlM Controller)
    (fun _ _ => R) :=
  Writes.of_world fun _ => rfl

/-- A tidy state whose log is that of `c` follows `c` without a block. -/
theorem Follows.same_log {c c' : Controller} (tidy : c'.Tidy) (log : c'.world.log = c.world.log) :
    Follows c c' :=
  ⟨tidy, [], by simp, by simp [log]⟩

/-- Reading the state returns the state. -/
theorem Writes.get_eq {P : Controller → Prop} :
    Writes P (MonadState.get : ControlM Controller) (fun a c => a = c ∧ P c) :=
  fun c tidy pre => ⟨Follows.refl tidy, fun a returned => by
    cases returned
    exact ⟨rfl, pre⟩⟩

/-- Lifting a result keeps the state, and whatever held of it. -/
theorem Writes.lift {P : Controller → Prop} (e : Except Fault α) :
    Writes P (lift e) (fun _ c => P c) := by
  intro c tidy pre
  cases e with
  | error f => exact ⟨Follows.refl tidy, fun _ failed => by cases failed⟩
  | ok a => exact ⟨Follows.refl tidy, fun _ returned => by cases returned; exact pre⟩

theorem Writes.ite {P : Controller → Prop} {Q : α → Controller → Prop} {b : Prop} [Decidable b]
    {x y : ControlM α} (yes : Writes P x Q) (no : Writes P y Q) :
    Writes P (if b then x else y) Q := by
  split
  · exact yes
  · exact no

theorem Writes.setEngine {R : Prop} (e : Engine) :
    Writes (fun _ => R) (setEngine e) (fun _ _ => R) :=
  Writes.of_world fun _ => rfl

/-- Setting a profiler that is tidy whenever the state is writes nothing. -/
theorem Writes.setProfiler {P : Controller → Prop} {R : Prop} {q : Profiler}
    (tidy : ∀ c, c.Tidy → P c → q.Tidy) (keep : ∀ c, P c → R) :
    Writes P (setProfiler q) (fun _ _ => R) := by
  intro c ctidy pre
  rw [runs_setProfiler]
  exact ⟨Follows.same_log ⟨tidy c ctidy pre, ctidy.clock, ctidy.sink⟩ rfl, fun _ _ => keep c pre⟩

theorem adaptLength_world (minDelta : Option Nat) (c : Controller) :
    ((adaptLength minDelta).run.run c).2.world = c.world := by
  rw [adaptLength_run]
  split <;> rfl

theorem chooseDelay_world (c : Controller) : (chooseDelay.run.run c).2.world = c.world := by
  cases fixed : c.engine.fixedDelay with
  | some d => simp only [chooseDelay, runs_bind, runs_get, fixed, runs_pure]
  | none =>
    simp only [chooseDelay, runs_bind, runs_get, fixed]
    exact draw_world _ c

/-- Taking the proposed line writes nothing. -/
theorem writes_readyLine {R : Prop} : Writes (fun _ => R) readyLine (fun _ _ => R) := by
  intro c tidy holds
  rcases readyLine_state c with same | taken
  · rw [same]
    exact ⟨Follows.refl tidy, fun _ _ => holds⟩
  · rw [taken]
    exact ⟨Follows.same_log ⟨tidy.profiler.of_same rfl rfl rfl, tidy.clock, tidy.sink⟩ rfl,
      fun _ _ => holds⟩

/-- Beginning a round writes the block that starts it, and the round holds the tidy names of
the profiler's points. -/
theorem writes_beginRound (line delay : Nat) :
    Writes (fun _ => True) (beginRound line delay) (fun r _ => r.Tidy) := by
  intro c tidy _
  have arrival := chooseArrival_world c
  simp only [beginRound, runs_bind]
  revert arrival
  rcases chooseArrival.run.run c with ⟨_ | a, c₁⟩
  · intro (same : c₁.world = c.world)
    exact ⟨Follows.of_world tidy same, fun _ failed => by cases failed⟩
  · intro (same : c₁.world = c.world)
    simp only [runs_get, Profiler.beginExperiment, runs_setProfiler]
    have tidy₁ : c₁.Tidy := ⟨same ▸ tidy.profiler, same ▸ tidy.clock, same ▸ tidy.sink⟩
    have log : c₁.world.log = c.world.log := congrArg World.log same
    -- the round keeps the profiler's files, counts and points
    have kept : ∀ q : Profiler, q.map = c₁.world.profiler.map →
        q.samples = c₁.world.profiler.samples → q.points = c₁.world.profiler.points → q.Tidy :=
      fun q map samples points => tidy₁.profiler.of_same map samples points
    cases added : Word.add line 1 with
    | error f =>
      simp only [runs_lift_error]
      exact ⟨Follows.same_log ⟨kept _ rfl rfl rfl, tidy₁.clock, tidy₁.sink⟩ log,
        fun _ failed => by cases failed⟩
    | ok n =>
      simp only [runs_lift_ok, runs_bind, runs_ite, runs_emit, runs_pure]
      have readable :
          (LogBlock.started c₁.world.clock (c₁.world.profiler.lineName line) delay).Readable :=
        ⟨tidy₁.profiler.lineName_fits line, Profiler.lineName_ending _ line⟩
      have round : ∀ arrival start samples, Round.Tidy
          ⟨line, delay, c₁.world.clock, start, samples, arrival, c₁.world.profiler.points.save⟩ :=
        fun _ _ _ => ⟨tidy₁.profiler.throughput, tidy₁.profiler.latency⟩
      -- a baseline and a speedup write one record each, of different kinds
      split
      all_goals
        refine ⟨Follows.writes _ tidy (kept _ rfl rfl rfl) tidy₁.clock readable rfl ?_,
          fun r returned => ?_⟩
        · rw [← log]
          simp [LogBlock.records, Profiler.lineName, *]
        · cases returned
          exact round _ _ _

/-- Finishing a tidy round writes the block of its end, its experiment and its points. -/
theorem writes_finishRound (r : Round) :
    Writes (fun _ => r.Tidy) (finishRound r) (fun _ _ => True) := by
  intro c tidy round
  obtain ⟨o, c', ran, -, -, -⟩ := finishRound_run r c
  have written := ran
  simp only [finishRound, runs_bind, runs_get, Profiler.endExperiment, runs_setProfiler, runs_emit,
    runs_forM_emit, runs_pure] at written
  obtain ⟨rfl, rfl⟩ := written
  have ended := tidy.profiler.of_same (q := { c.world.profiler with active := false, selected := none })
    rfl rfl rfl
  rw [ran]
  refine ⟨Follows.writes (.finished r c _ _ ran) tidy ended tidy.clock
    ⟨tidy.profiler.lineName_fits r.line, round.throughput, round.latency, ?_, ?_⟩ rfl ?_,
    fun _ _ => trivial⟩
  · -- the duration is at most the wall time, which the clock bounds
    have clock := tidy.clock
    dsimp only
    omega
  · exact Nat.le_trans (Nat.sub_le _ _) (ended.lineSamples_le r.line)
  · simp only [LogBlock.records, Snapshot.records, LogBlock.speedup, Profiler.lineName,
      List.foldl_append]
    rfl

/-- Running a body that only writes records, on each element in turn, writes all their records
in turn. -/
theorem runs_forM_writes {γ : Type} (xs : List γ) (body : γ → ControlM PUnit)
    (out : γ → List Record)
    (each : ∀ x c, (body x).run.run c =
      (.ok ⟨⟩, { c with world := { c.world with log := (out x).foldl Log.write c.world.log } }))
    (c : Controller) :
    (xs.forM body).run.run c =
      (.ok ⟨⟩, { c with world := { c.world with log := (xs.flatMap out).foldl Log.write c.world.log } }) := by
  induction xs generalizing c with
  | nil => rfl
  | cons x xs ih => simp only [List.forM, runs_bind, each, ih, List.flatMap_cons, List.foldl_append]

/-- The record of a line's sample count. -/
def samplesRecord (name : String) (count : Nat) : Record :=
  ⟨"samples", [("location", name), ("count", toString count)]⟩

/-- Writing the records of a list, with nothing for the lines sampled never, writes the records
of the lines sampled. -/
theorem flatMap_sampled (xs : List (SourceLine × Nat)) :
    (xs.flatMap fun x => if 0 < x.2 then [samplesRecord x.1.name x.2] else []) =
      (xs.filterMap fun (line, count) => if 0 < count then some (line.name, count) else none).map
        fun (name, count) => samplesRecord name count := by
  induction xs with
  | nil => rfl
  | cons x xs ih =>
    obtain ⟨line, count⟩ := x
    by_cases sampled : 0 < count <;> simp [sampled, ih]

/-- The state after writing the records of a block to the log. -/
def writeBlock (c : Controller) (b : LogBlock) : Controller :=
  { c with world := { c.world with log := b.records.foldl Log.write c.world.log } }

theorem logSamples_run (c : Controller) :
    logSamples.run.run c =
      (.ok ⟨⟩, c.writeBlock (.samples c.world.clock c.world.profiler.sampledCounts)) := by
  simp only [logSamples, runs_bind, runs_get, runs_emit]
  rw [runs_forM_writes _ _ (fun x => if 0 < x.2 then [samplesRecord x.1.name x.2] else []) ?each]
  · rw [flatMap_sampled]
    rfl
  case each =>
    -- a line sampled never writes nothing
    rintro ⟨line, count⟩ c
    by_cases sampled : 0 < count
    · simp [sampled, samplesRecord]
    · simp only [sampled, if_false, runs_pure]
      rfl

theorem logShutdown_run (c : Controller) :
    logShutdown.run.run c =
      (.ok ⟨⟩, (c.writeBlock (.samples c.world.clock c.world.profiler.sampledCounts)).writeBlock
        (.shutdown c.world.clock)) := by
  simp only [logShutdown, runs_bind, logSamples_run, runs_get, runs_emit]
  rfl

/-- Logging the samples writes the block of the runtime and the counts of the sampled lines. -/
theorem writes_logSamples {R : Prop} : Writes (fun _ => R) logSamples (fun _ _ => R) := by
  intro c tidy holds
  rw [logSamples_run]
  exact ⟨Follows.writes (.samples c.world.clock c.world.profiler.sampledCounts) tidy
    tidy.profiler tidy.clock ⟨tidy.clock, tidy.profiler.sampledCounts⟩ rfl rfl, fun _ _ => holds⟩

/-- Shutting down writes the samples' block and the shutdown's. -/
theorem writes_logShutdown {R : Prop} : Writes (fun _ => R) logShutdown (fun _ _ => R) := by
  refine writes_logSamples.bind fun _ => ?_
  intro c tidy holds
  simp only [runs_bind, runs_get, runs_emit]
  exact ⟨Follows.writes (.shutdown c.world.clock) tidy tidy.profiler tidy.clock trivial rfl rfl,
    fun _ _ => holds⟩

/-- Finishing a tidy round writes its blocks and goes on to a tidy phase other than the start. -/
theorem writes_afterRound (r : Round) :
    Writes (fun _ => r.Tidy) (afterRound r) (fun ph _ => ph.Tidy ∧ ph ≠ .starting) := by
  unfold afterRound
  refine (writes_finishRound r).bind fun o => ?_
  refine (Writes.of_world (adaptLength_world o.minDelta)).bind fun _ => ?_
  refine Writes.get.bind fun c => ?_
  refine (Writes.setEngine _).bind fun _ => ?_
  -- the samples are logged every few rounds, before the same choice to stop or cool off
  refine Writes.ite (writes_logSamples.bind fun _ => ?_) ?_
  all_goals
    exact Writes.ite (writes_logShutdown.bind fun _ => Writes.pure fun _ _ => ⟨trivial, nofun⟩)
      ((Writes.lift _).bind fun _ => Writes.pure fun _ _ => ⟨trivial, nofun⟩)

/-- Starting a round writes its blocks and goes on to a tidy phase other than the start. -/
theorem writes_startRound (line : Nat) :
    Writes (fun _ => True) (startRound line) (fun ph _ => ph.Tidy ∧ ph ≠ .starting) := by
  unfold startRound
  refine (Writes.of_world chooseDelay_world).bind fun delay => ?_
  refine (writes_beginRound line delay).bind fun r => ?_
  refine Writes.get.bind fun c => ?_
  exact Writes.ite ((Writes.lift _).bind fun _ => Writes.pure fun _ round => ⟨round, nofun⟩)
    (Writes.ite (Writes.pure fun _ round => ⟨round, nofun⟩) (writes_afterRound r))

/-- Every action after the start writes readable blocks that start no run, and goes on to a tidy
phase. -/
theorem writes_act (host : Host) {ph : Phase} (started : ph ≠ .starting) :
    Writes (fun _ => ph.Tidy) (act host ph) (fun ph' _ => ph'.Tidy ∧ ph' ≠ .starting) := by
  cases ph with
  | starting => exact absurd rfl started
  | awaitingPoints | coolingOff _ | stopped | failed _ =>
    exact Writes.pure fun _ _ => ⟨trivial, nofun⟩
  | looping =>
    refine Writes.get.bind fun c => ?_
    exact Writes.ite
      (Writes.ite ((Writes.lift _).bind fun _ => Writes.pure fun _ _ => ⟨trivial, nofun⟩)
        (Writes.pure fun _ _ => ⟨trivial, nofun⟩))
      (writes_logShutdown.bind fun _ => Writes.pure fun _ _ => ⟨trivial, nofun⟩)
  | selecting =>
    refine writes_readyLine.bind fun line => ?_
    cases line with
    | some line => exact writes_startRound line
    | none => exact writes_logShutdown.bind fun _ => Writes.pure fun _ _ => ⟨trivial, nofun⟩
  | holding r _ => exact writes_afterRound r
  | pacing r elapsed length _ =>
    -- the delay inserted changes the global delay only
    refine Writes.get_eq.bind fun c => ?_
    refine (Writes.lift _).bind fun amount => ?_
    refine (Writes.setProfiler (fun _ tidy got => got.1 ▸ tidy.profiler.of_same rfl rfl rfl)
      fun _ got => got.2).bind fun _ => ?_
    exact Writes.ite (Writes.pure fun _ round => ⟨round, nofun⟩) (writes_afterRound r)

/-- The first step writes the startup block and nothing else, and goes on to a phase that holds
no round. -/
theorem step_starting (host : Host) (c : Controller) :
    (step host .starting c).1.Tidy ∧ (step host .starting c).1 ≠ .starting ∧
      (step host .starting c).2.world = { c.world with
      log := (LogBlock.startup c.world.clock c.world.profiler.engine.samplePeriod
        host.visitOverhead).records.foldl Log.write c.world.log } := by
  simp only [step, act, logStartup, runs_bind, runs_get, runs_emit, runs_ite, runs_pure]
  -- the choice of the next phase only reads the state
  split_ifs
  · exact ⟨trivial, nofun, rfl⟩
  · cases c.world.profiler.engine.batchPeriod <;> exact ⟨trivial, nofun, rfl⟩
  · exact ⟨trivial, nofun, rfl⟩

/-- A step after the start writes readable blocks that start no run, and goes on to a tidy
phase other than the start. -/
theorem follows_step {host : Host} {ph : Phase} {c : Controller} (started : ph ≠ .starting)
    (tidy : c.Tidy) (phase : ph.Tidy) :
    Follows c (step host ph c).2 ∧ (step host ph c).1.Tidy ∧ (step host ph c).1 ≠ .starting := by
  have ran := writes_act host started c tidy phase
  unfold step
  revert ran
  rcases (act host ph).run.run c with ⟨_ | ph', c'⟩
  · rintro ⟨follows, -⟩
    exact ⟨follows, trivial, nofun⟩
  · rintro ⟨follows, next⟩
    exact ⟨follows, next ph' rfl⟩

end Controller

end CausalProfiler
