import CausalProfiler.Proofs.RunSettings
import Mathlib.Tactic.Ring
/-!
# What the environment's numbers decide

Of the variables the profiler reads, only two can keep it from starting: the fixed speedup and
the sample period. This module reads `Settings.ofLookup` as two stages, the speedup then the
engine of the period (`ofLookup_eq_bind`), and shows that the outcome is decided by the two
numbers alone:

* `ofSamplePeriod_of_fits`, `ofSamplePeriod_of_overflow`: the engine of a period computes every
  derived time as its exact product exactly when the longest experiment, `32000` periods, fits
  a word;
* `speedupSetting_eq_error_iff`, `engineSetting_eq_error_iff`: a speedup that does not read as a
  percentage is refused, a period that does not read as a positive word is refused, and one whose
  longest experiment leaves the word is a multiplication fault;
* `outcome_decided_by_numbers`: a bad speedup is reported whatever else is set; otherwise a bad
  period; otherwise a period too long faults, and every other environment gives settings whose
  engine is that of the period in nanoseconds.
-/
namespace CausalProfiler

/-- A sequenced computation fails exactly when its first part fails, or its first part succeeds
and the rest fails. -/
theorem Except.bind_eq_error_iff {ε α β : Type} {x : Except ε α} {f : α → Except ε β} {e : ε} :
    x >>= f = .error e ↔ x = .error e ∨ ∃ a, x = .ok a ∧ f a = .error e := by
  cases x <;> simp [bind, Except.bind]

namespace EngineSettings

/-- The engine of a period whose derived times all fit a word. -/
def ofFittingPeriod (p : Nat) : EngineSettings :=
  { samplePeriod := p, sampleBatchSize := 10, speedupDivisions := 20, zeroSpeedupWeight := 7,
    experimentMinTime := 500 * p, experimentMaxTime := 32000 * p, cooloff := 10 * p,
    targetDelta := 5, maxDelayPerExperiment := 2000000000, threadCapacity := 1024,
    pointCapacity := 1024 }

theorem ofSamplePeriod_of_fits {p : Nat} (fits : p * 32000 ≤ Word.max) :
    ofSamplePeriod p = .ok (ofFittingPeriod p) := by
  have word := Word.size_eq_max_add_one
  have batch : p * 10 < Word.size := by omega
  have least : p * 10 * 50 < Word.size := by omega
  have longest : p * 10 * 50 * 64 < Word.size := by omega
  simp only [ofSamplePeriod, Word.mul, batch, least, longest, if_true, bind, Except.bind, pure,
    Except.pure, ofFittingPeriod, Except.ok.injEq, EngineSettings.mk.injEq, true_and, and_true]
  omega

theorem ofSamplePeriod_of_overflow {p : Nat} (overflow : Word.max < p * 32000) :
    ofSamplePeriod p = .error .mulOverflow := by
  have word := Word.size_eq_max_add_one
  -- the first of the three products that leaves the word stops the computation
  by_cases batch : p * 10 < Word.size
  · by_cases least : p * 10 * 50 < Word.size
    · have longest : ¬p * 10 * 50 * 64 < Word.size := by omega
      simp only [ofSamplePeriod, Word.mul, batch, least, longest, if_true, if_false, bind,
        Except.bind]
    · simp only [ofSamplePeriod, Word.mul, batch, least, if_true, if_false, bind, Except.bind]
  · simp only [ofSamplePeriod, Word.mul, batch, if_false, bind, Except.bind]

/-- The engine of a period computes exactly when its longest experiment fits a word. -/
theorem ofSamplePeriod_ok_iff (p : Nat) :
    (∃ e, ofSamplePeriod p = .ok e) ↔ p * 32000 ≤ Word.max := by
  constructor
  · rintro ⟨e, computed⟩
    by_contra overflow
    rw [ofSamplePeriod_of_overflow (Nat.lt_of_not_le overflow)] at computed
    cases computed
  · intro fits
    exact ⟨_, ofSamplePeriod_of_fits fits⟩

theorem batchPeriod_ofFittingPeriod {p : Nat} (fits : p * 32000 ≤ Word.max) :
    (ofFittingPeriod p).batchPeriod = .ok (10 * p) := by
  have word := Word.size_eq_max_add_one
  have batch : p * 10 < Word.size := by omega
  simp only [batchPeriod, Word.mul, ofFittingPeriod, batch, if_true, Nat.mul_comm]

end EngineSettings

/-- A fixed speedup as written: after trimming blanks, a byte-sized decimal of at most 100. -/
def SpeedupReads (raw : String) : Prop :=
  ∃ pct, Number.readNat? 255 (Text.trimString raw) = some pct ∧ pct ≤ 100

/-- A sample period of `m` microseconds as written: after trimming blanks, a positive decimal
that fits a word. -/
def PeriodReads (raw : String) (m : Nat) : Prop :=
  Number.readNat? Number.wordMax (Text.trimString raw) = some m ∧ 0 < m

theorem readSpeedup_eq_error_iff {raw : String} {e : SettingsError} :
    readSpeedup raw = .error e ↔ ¬SpeedupReads raw ∧ e = .invalidSpeedup raw := by
  unfold readSpeedup SpeedupReads
  cases read : Number.readNat? 255 (Text.trimString raw) with
  | none => simp [eq_comm]
  | some pct =>
    by_cases small : pct ≤ 100
    · simp [small]
    · simp [small, eq_comm]

theorem readSpeedup_ok {raw : String} (reads : SpeedupReads raw) :
    ∃ pct, readSpeedup raw = .ok pct := by
  obtain ⟨pct, read, small⟩ := reads
  refine ⟨pct, ?_⟩
  unfold readSpeedup
  simp only [read, small, if_true]

theorem readPeriod_eq_error_iff {raw : String} {e : SettingsError} :
    readPeriod raw = .error e ↔ (∀ m, ¬PeriodReads raw m) ∧ e = .invalidPeriod raw := by
  unfold readPeriod PeriodReads
  cases read : Number.readNat? Number.wordMax (Text.trimString raw) with
  | none => simp [eq_comm]
  | some us =>
    by_cases positive : 0 < us
    · simp only [positive, if_true, reduceCtorEq, false_iff, not_and]
      exact fun refused => absurd positive (refused us rfl)
    · simp only [positive, if_false, Except.error.injEq, Option.some.injEq]
      constructor
      · rintro rfl
        exact ⟨fun m ⟨same, more⟩ => positive (same ▸ more), rfl⟩
      · rintro ⟨-, rfl⟩
        rfl

theorem readPeriod_of_reads {raw : String} {m : Nat} (reads : PeriodReads raw m) :
    readPeriod raw = .ok m := by
  unfold readPeriod
  simp only [reads.1, reads.2, if_true]

/-- The fixed speedup a variable's value gives, when it is set and not empty. -/
def speedupSetting : Option String → Except SettingsError (Option Nat)
  | some raw => some <$> readSpeedup raw
  | none => pure none

/-- The engine a period variable's value gives, when it is set and not empty: the engine of the
period in nanoseconds, or the default. -/
def engineSetting : Option String → Except SettingsError EngineSettings
  | some raw => do
    let us ← readPeriod raw
    let ns ← (Word.mul us 1000).mapError .fault
    (EngineSettings.ofSamplePeriod ns).mapError .fault
  | none => pure Settings.default.engine

/-- The environment is read in two stages, the fixed speedup and then the engine, and the
settings take the engine read. -/
theorem ofLookup_stages (L : String → Option String) :
    ∃ assemble : Option Nat → EngineSettings → Settings, (∀ s e, (assemble s e).engine = e) ∧
      Settings.ofLookup L = speedupSetting (nonEmpty (L "CAUSA_FIXED_SPEEDUP")) >>= fun s =>
        engineSetting (nonEmpty (L "CAUSA_SAMPLE_PERIOD_US")) >>= fun e => pure (assemble s e) := by
  refine ⟨fun speedup engine =>
    { output := (nonEmpty (L "CAUSA_OUTPUT")).getD Settings.default.output
      binaryScope := ((L "CAUSA_BINARY_SCOPE").map splitList).getD Settings.default.binaryScope
      sourceScope := ((L "CAUSA_SOURCE_SCOPE").map splitList).getD Settings.default.sourceScope
      progressPoints :=
        ((L "CAUSA_PROGRESS_POINTS").map splitList).getD Settings.default.progressPoints
      fixedLine := nonEmpty (L "CAUSA_FIXED_LINE")
      fixedSpeedup := speedup
      endToEnd := L "CAUSA_END_TO_END" == some "1"
      arrivalSpeedup := L "CAUSA_ARRIVAL_SPEEDUP" == some "1"
      verbose := L "CAUSA_VERBOSE" == some "1"
      engine := engine }, fun _ _ => rfl, ?_⟩
  unfold Settings.ofLookup speedupSetting engineSetting
  -- each stage's branches bind the rest; on each branch the two sides agree
  cases nonEmpty (L "CAUSA_FIXED_SPEEDUP") <;> cases nonEmpty (L "CAUSA_SAMPLE_PERIOD_US") <;>
    simp only [bind_assoc, pure_bind]

theorem speedupSetting_eq_error_iff {v : Option String} {e : SettingsError} :
    speedupSetting v = .error e ↔
      ∃ raw, v = some raw ∧ ¬SpeedupReads raw ∧ e = .invalidSpeedup raw := by
  cases v with
  | none => simp [speedupSetting, pure, Except.pure]
  | some raw =>
    simp only [speedupSetting, Option.some.injEq, exists_eq_left', ← readSpeedup_eq_error_iff]
    cases readSpeedup raw <;> simp [Functor.map, Except.map]

theorem speedupSetting_ok {v : Option String} (reads : ∀ raw, v = some raw → SpeedupReads raw) :
    ∃ s, speedupSetting v = .ok s := by
  cases v with
  | none => exact ⟨none, rfl⟩
  | some raw =>
    obtain ⟨pct, read⟩ := readSpeedup_ok (reads raw rfl)
    exact ⟨some pct, by simp [speedupSetting, read, Functor.map, Except.map]⟩

theorem engineSetting_of_readPeriod {raw : String} {m : Nat} (read : readPeriod raw = .ok m) :
    engineSetting (some raw) = (EngineSettings.ofSamplePeriod (1000 * m)).mapError .fault := by
  have scaled := Tool.period_engine m pure
  simp only [bind_pure] at scaled
  simp only [engineSetting, read, bind, Except.bind]
  exact scaled

/-- A period that reads gives the engine of its nanoseconds, or a multiplication fault when the
longest experiment, `32000` periods, leaves the word. -/
theorem engineSetting_of_reads {raw : String} {m : Nat} (reads : PeriodReads raw m) :
    engineSetting (some raw) = if m * 32000000 ≤ Word.max then
      .ok (EngineSettings.ofFittingPeriod (1000 * m)) else .error (.fault .mulOverflow) := by
  have scaled : 1000 * m * 32000 = m * 32000000 := by ring
  rw [engineSetting_of_readPeriod (readPeriod_of_reads reads)]
  split
  · rename_i fits
    rw [← scaled] at fits
    simp only [EngineSettings.ofSamplePeriod_of_fits fits, Except.mapError]
  · rename_i overflow
    rw [← scaled] at overflow
    simp only [EngineSettings.ofSamplePeriod_of_overflow (Nat.lt_of_not_le overflow),
      Except.mapError]

theorem engineSetting_eq_error_iff {v : Option String} {e : SettingsError} :
    engineSetting v = .error e ↔ ∃ raw, v = some raw ∧
      ((∀ m, ¬PeriodReads raw m) ∧ e = .invalidPeriod raw ∨
        ∃ m, PeriodReads raw m ∧ Word.max < m * 32000000 ∧ e = .fault .mulOverflow) := by
  cases v with
  | none => simp [engineSetting, pure, Except.pure]
  | some raw =>
    simp only [Option.some.injEq, exists_eq_left']
    by_cases reads : ∃ m, PeriodReads raw m
    · obtain ⟨m, read⟩ := reads
      -- the number read is the only one the text gives
      have only : ∀ m', PeriodReads raw m' → m' = m := fun m' other =>
        Option.some.inj (other.1.symm.trans read.1)
      rw [engineSetting_of_reads read]
      split
      · simp only [reduceCtorEq, false_iff, not_or, not_and, not_exists]
        exact ⟨fun refused => absurd read (refused m),
          fun m' other overflow => absurd (only m' other ▸ overflow) (Nat.not_lt.mpr ‹_›)⟩
      · simp only [Except.error.injEq]
        constructor
        · rintro rfl
          exact .inr ⟨m, read, Nat.lt_of_not_le ‹_›, rfl⟩
        · rintro (⟨refused, -⟩ | ⟨m', -, -, rfl⟩)
          · exact absurd read (refused m)
          · rfl
    · have refused : ∀ m, ¬PeriodReads raw m := fun m read => reads ⟨m, read⟩
      have failed := readPeriod_eq_error_iff.mpr ⟨refused, rfl⟩
      simp only [engineSetting, failed, bind, Except.bind, Except.error.injEq]
      constructor
      · rintro rfl
        exact .inl ⟨refused, rfl⟩
      · rintro (⟨-, rfl⟩ | ⟨m, read, -⟩)
        · rfl
        · exact absurd read (refused m)

variable (L : String → Option String)

/-- A fixed speedup that does not read is reported, whatever else the environment holds. -/
theorem ofLookup_invalidSpeedup_iff (v : String) :
    Settings.ofLookup L = .error (.invalidSpeedup v) ↔
      nonEmpty (L "CAUSA_FIXED_SPEEDUP") = some v ∧ ¬SpeedupReads v := by
  obtain ⟨assemble, -, stages⟩ := ofLookup_stages L
  rw [stages, Except.bind_eq_error_iff, speedupSetting_eq_error_iff]
  constructor
  · rintro (⟨raw, given, refused, same⟩ | ⟨s, -, later⟩)
    · cases same
      exact ⟨given, refused⟩
    -- the engine stage reports only periods and faults
    · rcases Except.bind_eq_error_iff.mp later with failed | ⟨e, -, assembled⟩
      · obtain ⟨raw, -, ⟨-, wrong⟩ | ⟨m, -, -, wrong⟩⟩ := engineSetting_eq_error_iff.mp failed <;>
          cases wrong
      · cases assembled
  · rintro ⟨given, refused⟩
    exact .inl ⟨v, given, refused, rfl⟩

/-- With a fixed speedup that reads, or none, the environment gives what its engine stage gives. -/
theorem ofLookup_of_speedup_reads
    (reads : ∀ v, nonEmpty (L "CAUSA_FIXED_SPEEDUP") = some v → SpeedupReads v) :
    (∀ e, Settings.ofLookup L = .error e ↔
      engineSetting (nonEmpty (L "CAUSA_SAMPLE_PERIOD_US")) = .error e) ∧
    ∀ engine, engineSetting (nonEmpty (L "CAUSA_SAMPLE_PERIOD_US")) = .ok engine →
      ∃ s, Settings.ofLookup L = .ok s ∧ s.engine = engine := by
  obtain ⟨assemble, engineOf, stages⟩ := ofLookup_stages L
  obtain ⟨speedup, read⟩ := speedupSetting_ok reads
  rw [stages, read]
  refine ⟨fun e => ?_, fun engine computed => ⟨assemble speedup engine, ?_, engineOf _ _⟩⟩
  · cases engineSetting (nonEmpty (L "CAUSA_SAMPLE_PERIOD_US")) <;>
      simp [bind, Except.bind, pure, Except.pure]
  · simp [computed, bind, Except.bind, pure, Except.pure]

/-- The default engine is the engine of a one-millisecond period. -/
theorem EngineSettings.ofSamplePeriod_default :
    EngineSettings.ofSamplePeriod 1000000 = .ok EngineSettings.default := rfl

/-- What the environment's two numbers decide. A fixed speedup that does not read as a
percentage is reported, whatever else is set. Otherwise a period that does not read as a
positive number of microseconds is reported. Otherwise a period of `m` microseconds faults on a
multiplication exactly when `32000000 m` leaves the word, and else the settings take the engine
of `1000 m` nanoseconds, whose derived times are the exact products; without a period they take
the engine of one millisecond. Apart from the profiler's settings, the engine of a period `p`
computes exactly when `32000 p` fits the word. -/
theorem outcome_decided_by_numbers :
    (∀ v, Settings.ofLookup L = .error (.invalidSpeedup v) ↔
      nonEmpty (L "CAUSA_FIXED_SPEEDUP") = some v ∧ ¬SpeedupReads v) ∧
    ((∀ v, nonEmpty (L "CAUSA_FIXED_SPEEDUP") = some v → SpeedupReads v) →
      (∀ v, Settings.ofLookup L = .error (.invalidPeriod v) ↔
        nonEmpty (L "CAUSA_SAMPLE_PERIOD_US") = some v ∧ ∀ m, ¬PeriodReads v m) ∧
      (∀ v m, nonEmpty (L "CAUSA_SAMPLE_PERIOD_US") = some v → PeriodReads v m →
        (Settings.ofLookup L = .error (.fault .mulOverflow) ↔ Word.max < m * 32000000) ∧
        (m * 32000000 ≤ Word.max → ∃ s, Settings.ofLookup L = .ok s ∧
          EngineSettings.ofSamplePeriod (1000 * m) = .ok s.engine ∧
          s.engine.samplePeriod = 1000 * m ∧ s.engine.experimentMinTime = 500 * (1000 * m) ∧
          s.engine.experimentMaxTime = 32000 * (1000 * m) ∧ s.engine.cooloff = 10 * (1000 * m) ∧
          s.engine.batchPeriod = .ok (10 * (1000 * m)))) ∧
      (nonEmpty (L "CAUSA_SAMPLE_PERIOD_US") = none →
        ∃ s, Settings.ofLookup L = .ok s ∧ EngineSettings.ofSamplePeriod 1000000 = .ok s.engine)) ∧
    ∀ p, (∃ e, EngineSettings.ofSamplePeriod p = .ok e) ↔ p * 32000 ≤ Word.max := by
  refine ⟨ofLookup_invalidSpeedup_iff L, fun reads => ?_, EngineSettings.ofSamplePeriod_ok_iff⟩
  obtain ⟨sameError, sameEngine⟩ := ofLookup_of_speedup_reads L reads
  refine ⟨fun v => ?_, fun v m given read => ⟨?_, fun fits => ?_⟩, fun unset => ?_⟩
  · -- a period is reported only when it does not read
    rw [sameError, engineSetting_eq_error_iff]
    constructor
    · rintro ⟨raw, given, ⟨refused, same⟩ | ⟨m, -, -, wrong⟩⟩
      · cases same
        exact ⟨given, refused⟩
      · cases wrong
    · rintro ⟨given, refused⟩
      exact ⟨v, given, .inl ⟨refused, rfl⟩⟩
  · rw [sameError, given, engineSetting_of_reads read]
    split
    · simp only [reduceCtorEq, false_iff, not_lt]
      assumption
    · simp only [true_iff]
      exact Nat.lt_of_not_le ‹_›
  · have computed := engineSetting_of_reads read
    rw [if_pos fits, ← given] at computed
    obtain ⟨s, ok, engine⟩ := sameEngine _ computed
    have scaled : 1000 * m * 32000 ≤ Word.max := by
      have : 1000 * m * 32000 = m * 32000000 := by ring
      rw [this]
      exact fits
    refine ⟨s, ok, ?_, ?_, ?_, ?_, ?_, ?_⟩
    · rw [engine]
      exact EngineSettings.ofSamplePeriod_of_fits scaled
    all_goals rw [engine]
    · rfl
    · rfl
    · rfl
    · rfl
    · exact EngineSettings.batchPeriod_ofFittingPeriod scaled
  · have computed : engineSetting (nonEmpty (L "CAUSA_SAMPLE_PERIOD_US")) =
        .ok EngineSettings.default := by
      rw [unset]
      rfl
    obtain ⟨s, ok, engine⟩ := sameEngine _ computed
    exact ⟨s, ok, engine ▸ EngineSettings.ofSamplePeriod_default⟩

/-- An environment that sets only the sample period, to half a millisecond written with blanks
around it. -/
def halfMillisecondPeriod (name : String) : Option String :=
  if name = "CAUSA_SAMPLE_PERIOD_US" then some " 500 " else none

theorem half_millisecond_period_engine :
    (∀ v, nonEmpty (halfMillisecondPeriod "CAUSA_FIXED_SPEEDUP") = some v → SpeedupReads v) ∧
      nonEmpty (halfMillisecondPeriod "CAUSA_SAMPLE_PERIOD_US") = some " 500 " ∧
      PeriodReads " 500 " 500 ∧ 500 * 32000000 ≤ Word.max ∧
      ∃ s, Settings.ofLookup halfMillisecondPeriod = .ok s ∧
        EngineSettings.ofSamplePeriod (1000 * 500) = .ok s.engine ∧
        s.engine.samplePeriod = 1000 * 500 ∧ s.engine.experimentMinTime = 500 * (1000 * 500) ∧
        s.engine.experimentMaxTime = 32000 * (1000 * 500) ∧ s.engine.cooloff = 10 * (1000 * 500) ∧
        s.engine.batchPeriod = .ok (10 * (1000 * 500)) := by
  have noSpeedup : ∀ v, nonEmpty (halfMillisecondPeriod "CAUSA_FIXED_SPEEDUP") = some v →
      SpeedupReads v := by
    intro v given
    cases given
  have given : nonEmpty (halfMillisecondPeriod "CAUSA_SAMPLE_PERIOD_US") = some " 500 " := rfl
  have reads : PeriodReads " 500 " 500 := ⟨rfl, by decide⟩
  have fits : 500 * 32000000 ≤ Word.max := by decide
  exact ⟨noSpeedup, given, reads, fits,
    (((outcome_decided_by_numbers halfMillisecondPeriod).2.1 noSpeedup).2.1 " 500 " 500 given
      reads).2 fits⟩

end CausalProfiler
