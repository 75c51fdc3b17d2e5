import CausalProfiler.Tool.Command
import CausalProfiler.Proofs.LogText
/-!
# What `run` tells the profiler

`cargo causa run` hands its options to the profiled program as environment variables set over
the environment it inherited, and the profiler reads its settings back from them. The channel is
narrow: lists are joined by tabs and split on them with empty entries dropped, an empty value
counts as unset, a period is read back as a positive number of microseconds, and a `CAUSA_`
variable that the options leave out is taken from the shell.

Within the channel the profiler gets exactly the options (`run_configures_profiler`): options as
the parser fills them, plain lists, a fixed line that is not empty and a positive period, started
from a shell that sets no `CAUSA_` variable. The engine is the one the period asks for, faults
included. Outside it the settings differ from the options (`run_misconfigures_profiler`).
-/
namespace CausalProfiler.Tool

/-- The environment of a program started with `vars` over an inherited environment: a variable
set in both has its value in `vars`. -/
def overInherited (vars : List (String × String)) (inherited : String → Option String) :
    String → Option String :=
  fun name => (vars.lookup name).or (inherited name)

/-- A list the environment carries intact: no entry is empty or holds a tab. -/
def Plain (l : List String) : Prop := ∀ p ∈ l, p ≠ "" ∧ '\t' ∉ p.toList

/-- Options as the parser fills them: a log path that is not empty, a speedup from 0 to 100 and a
period that is a 64-bit word, both written in decimal. -/
structure RunOptions.Parsed (o : RunOptions) (speedup period : Option Nat) : Prop where
  output : o.output ≠ ""
  speedupShown : o.fixedSpeedup = speedup.map toString
  speedupRange : ∀ pct ∈ speedup, pct ≤ 100
  periodShown : o.samplePeriodUs = period.map toString
  periodRange : ∀ us ∈ period, us < Word.size

/-- Options whose values the profiler reads back as given. -/
structure RunOptions.Carried (o : RunOptions) (period : Option Nat) : Prop where
  binaryScope : Plain o.binaryScope
  sourceScope : Plain o.sourceScope
  progressPoints : Plain o.progressPoints
  fixedLine : o.fixedLine ≠ some ""
  period : 0 ∉ period

/-- The engine a period in microseconds asks for, or the default without one. -/
def engineFor : Option Nat → Except Fault EngineSettings
  | some us => EngineSettings.ofSamplePeriod (1000 * us)
  | none => .ok EngineSettings.default

/-- The settings the options ask for; the defaults stand for lists not given. -/
def RunOptions.intended (o : RunOptions) (speedup : Option Nat) (engine : EngineSettings) :
    Settings :=
  { output := o.output
    binaryScope := if o.binaryScope = [] then Settings.default.binaryScope else o.binaryScope
    sourceScope := if o.sourceScope = [] then Settings.default.sourceScope else o.sourceScope
    progressPoints :=
      if o.progressPoints = [] then Settings.default.progressPoints else o.progressPoints
    fixedLine := o.fixedLine
    fixedSpeedup := speedup
    endToEnd := o.endToEnd
    arrivalSpeedup := o.arrivalSpeedup
    verbose := o.verbose
    engine := engine }

section Values

theorem nonEmpty_none : nonEmpty none = none := rfl

theorem nonEmpty_some {v : String} (h : v ≠ "") : nonEmpty (some v) = some v := by
  simp [nonEmpty, h]

theorem nonEmpty_of_ne {v : Option String} (h : v ≠ some "") : nonEmpty v = v := by
  cases v with
  | none => rfl
  | some v => exact nonEmpty_some fun empty => h (by rw [empty])

theorem nonEmpty_toString (n : Nat) : nonEmpty (some (toString n)) = some (toString n) := by
  apply nonEmpty_some
  intro empty
  have digits := congrArg String.toList empty
  rw [Number.toString_toList, String.toList_empty] at digits
  exact Nat.toDigits_ne_nil digits

/-- Splitting on tabs undoes joining with them, for a plain list. -/
theorem splitList_intercalate {l : List String} (plain : Plain l) :
    splitList ("\t".intercalate l) = l := by
  unfold splitList
  cases l with
  | nil => simp
  | cons p ps =>
    have pieces :
        ("\t".intercalate (p :: ps)).toList.splitOn '\t' = (p :: ps).map String.toList := by
      rw [String.toList_intercalate]
      exact List.splitOn_intercalate '\t' (by simpa using fun q mem => (plain q mem).2) (by simp)
    rw [pieces, List.map_map]
    simp only [Function.comp_def, String.ofList_toList, List.map_id']
    rw [List.filter_eq_self]
    intro q member
    simpa using (plain q member).1

theorem joined_read {l d : List String} (plain : Plain l) :
    (Option.map splitList (if l ≠ [] then some ("\t".intercalate l) else none)).getD d =
      if l = [] then d else l := by
  by_cases empty : l = []
  · simp [empty]
  · simp [empty, splitList_intercalate plain]

theorem switch_read (b : Bool) : ((if b = true then some "1" else none) == some "1") = b := by
  cases b <;> rfl

theorem readSpeedup_toString {pct : Nat} (h : pct ≤ 100) :
    readSpeedup (toString pct) = pure pct := by
  unfold readSpeedup
  rw [(Number.graphic_toString pct).trimString, Number.readNat?_toString (by omega)]
  simp [h]; rfl

theorem readPeriod_toString {us : Nat} (pos : 0 < us) (h : us < Word.size) :
    readPeriod (toString us) = pure us := by
  have fits : us ≤ Number.wordMax := by
    unfold Number.wordMax; unfold Word.size at h; omega
  unfold readPeriod
  rw [(Number.graphic_toString us).trimString, Number.readNat?_toString fits]
  simp [pos]; rfl

/-- Scaling a period to nanoseconds and then to an engine faults exactly where the engine of the
scaled period does. -/
theorem period_engine {β : Type} (us : Nat) (k : EngineSettings → Except SettingsError β) :
    (do
      let ns ← (Word.mul us 1000).mapError SettingsError.fault
      let engine ← (EngineSettings.ofSamplePeriod ns).mapError SettingsError.fault
      k engine) =
      ((EngineSettings.ofSamplePeriod (1000 * us)).mapError SettingsError.fault >>= k) := by
  unfold Word.mul
  split
  · rw [Nat.mul_comm]; rfl
  · have overflow : EngineSettings.ofSamplePeriod (1000 * us) = .error .mulOverflow := by
      unfold EngineSettings.ofSamplePeriod Word.mul
      rw [if_neg (by omega)]; rfl
    rw [overflow]; rfl

theorem mapError_bind_pure {ε ε' α β : Type} (f : ε → ε') (x : Except ε α) (g : α → β) :
    (x.mapError f >>= fun a => pure (g a)) = (x.map g).mapError f := by
  cases x <;> rfl

end Values

section Environment

theorem lookup_joined (name key : String) (vs : List String) :
    List.lookup name (if vs.isEmpty then [] else [(key, "\t".intercalate vs)]) =
      if name = key ∧ vs ≠ [] then some ("\t".intercalate vs) else none := by
  cases vs <;> by_cases same : name = key <;> simp [same]

theorem lookup_given (name key : String) (v : Option String) :
    List.lookup name (v.map fun v => (key, v)).toList = if name = key then v else none := by
  cases v <;> by_cases same : name = key <;> simp [same]

theorem lookup_switch (name key : String) (b : Bool) :
    List.lookup name (if b then [(key, "1")] else []) =
      if name = key ∧ b then some "1" else none := by
  cases b <;> by_cases same : name = key <;> simp [same]

/-- The profiler reads only variables whose names start with `CAUSA_`. -/
theorem ofLookup_frame {L M : String → Option String}
    (agree : ∀ suffix, L ("CAUSA_" ++ suffix) = M ("CAUSA_" ++ suffix)) :
    Settings.ofLookup L = Settings.ofLookup M := by
  have speedup : L "CAUSA_FIXED_SPEEDUP" = M "CAUSA_FIXED_SPEEDUP" := agree "FIXED_SPEEDUP"
  have period : L "CAUSA_SAMPLE_PERIOD_US" = M "CAUSA_SAMPLE_PERIOD_US" := agree "SAMPLE_PERIOD_US"
  have output : L "CAUSA_OUTPUT" = M "CAUSA_OUTPUT" := agree "OUTPUT"
  have binary : L "CAUSA_BINARY_SCOPE" = M "CAUSA_BINARY_SCOPE" := agree "BINARY_SCOPE"
  have source : L "CAUSA_SOURCE_SCOPE" = M "CAUSA_SOURCE_SCOPE" := agree "SOURCE_SCOPE"
  have points : L "CAUSA_PROGRESS_POINTS" = M "CAUSA_PROGRESS_POINTS" := agree "PROGRESS_POINTS"
  have line : L "CAUSA_FIXED_LINE" = M "CAUSA_FIXED_LINE" := agree "FIXED_LINE"
  have endToEnd : L "CAUSA_END_TO_END" = M "CAUSA_END_TO_END" := agree "END_TO_END"
  have arrival : L "CAUSA_ARRIVAL_SPEEDUP" = M "CAUSA_ARRIVAL_SPEEDUP" := agree "ARRIVAL_SPEEDUP"
  have verbose : L "CAUSA_VERBOSE" = M "CAUSA_VERBOSE" := agree "VERBOSE"
  simp only [Settings.ofLookup, speedup, period, output, binary, source, points, line, endToEnd,
    arrival, verbose]

variable {o : RunOptions} {speedup period : Option Nat}

/-- Read back from `run`'s own variables, the options give the settings they ask for. -/
theorem environment_settings (parsed : o.Parsed speedup period) (carried : o.Carried period) :
    Settings.ofLookup (fun name => o.environment.lookup name) =
      ((engineFor period).map (o.intended speedup)).mapError .fault := by
  simp only [Settings.ofLookup, RunOptions.environment, List.lookup_append, List.lookup_cons,
    List.lookup_nil, lookup_joined, lookup_given, lookup_switch, String.reduceEq,
    String.reduceBEq, false_and, true_and, if_false, if_true, Option.or_none, Option.none_or]
  simp only [nonEmpty_some parsed.output, nonEmpty_of_ne carried.fixedLine,
    joined_read carried.binaryScope, joined_read carried.sourceScope,
    joined_read carried.progressPoints, switch_read, parsed.speedupShown, parsed.periodShown,
    Option.getD_some]
  have engine : ∀ us, period = some us → ∀ k : EngineSettings → Except SettingsError Settings,
      (readPeriod (toString us) >>= fun us => do
        let ns ← (Word.mul us 1000).mapError SettingsError.fault
        let engine ← (EngineSettings.ofSamplePeriod ns).mapError SettingsError.fault
        k engine) = ((EngineSettings.ofSamplePeriod (1000 * us)).mapError .fault >>= k) := by
    rintro us rfl k
    have pos : 0 < us := Nat.pos_of_ne_zero fun zero => carried.period (zero ▸ rfl)
    rw [readPeriod_toString pos (parsed.periodRange us rfl), pure_bind, period_engine]
  -- the speedup and the period are read independently; each is given or not
  cases speedup with
  | none =>
    cases period with
    | none => rfl
    | some us =>
      simp only [Option.map_none, Option.map_some, nonEmpty_toString, nonEmpty_none, pure_bind]
      rw [engine us rfl, mapError_bind_pure]
      rfl
  | some pct =>
    simp only [Option.map_some, nonEmpty_toString,
      readSpeedup_toString (parsed.speedupRange pct rfl), map_pure, pure_bind]
    cases period with
    | none => rfl
    | some us =>
      simp only [Option.map_some, nonEmpty_toString]
      rw [engine us rfl, mapError_bind_pure]
      rfl

end Environment

/-- Started from a shell that sets no `CAUSA_` variable, with options as the parser fills them,
plain lists, a fixed line that is not empty and a positive period, `run` gives the profiler the
settings its options ask for, and the engine of its period, faults included. -/
theorem run_configures_profiler {o : RunOptions} {inherited : String → Option String}
    {speedup period : Option Nat} (parsed : o.Parsed speedup period) (carried : o.Carried period)
    (clean : ∀ suffix, inherited ("CAUSA_" ++ suffix) = none) :
    Settings.ofLookup (overInherited o.environment inherited) =
      ((engineFor period).map (o.intended speedup)).mapError .fault := by
  have unset : ∀ suffix, overInherited o.environment inherited ("CAUSA_" ++ suffix) =
      o.environment.lookup ("CAUSA_" ++ suffix) := by
    intro suffix
    rw [overInherited, clean, Option.or_none]
  rw [ofLookup_frame (M := fun name => o.environment.lookup name) unset]
  exact environment_settings parsed carried

section Runs

/-- A run with no option given. -/
def plainRun : RunOptions :=
  { bin := none, exampleTarget := none, release := false, output := Settings.defaultOutput,
    preload := none, binaryScope := [], sourceScope := [], progressPoints := [],
    fixedLine := none, fixedSpeedup := none, endToEnd := false, arrivalSpeedup := false,
    samplePeriodUs := none, verbose := false, args := [] }

/-- A run with every option given: two binary scopes, a fixed line and speedup, a period of half
a millisecond and every switch on. -/
def tunedRun : RunOptions :=
  { plainRun with
    output := "/tmp/out.causa", binaryScope := ["MAIN", "%libfoo%"], sourceScope := ["%/src/%"],
    progressPoints := ["requests"], fixedLine := some "main.rs:12", fixedSpeedup := some "25",
    endToEnd := true, arrivalSpeedup := true, samplePeriodUs := some "500", verbose := true }

/-- A shell that sets only `PATH`. -/
def pathOnly (name : String) : Option String := if name = "PATH" then some "/usr/bin" else none

theorem pathOnly_clean (suffix : String) : pathOnly ("CAUSA_" ++ suffix) = none := by
  rw [pathOnly, if_neg]
  intro same
  have lengths := congrArg String.length same
  simp only [String.length_append] at lengths
  have : "CAUSA_".length = 6 := by decide
  have : "PATH".length = 4 := by decide
  omega

theorem tuned_run_configures_profiler :
    tunedRun.Parsed (some 25) (some 500) ∧ tunedRun.Carried (some 500) ∧
      Settings.ofLookup (overInherited tunedRun.environment pathOnly) =
        ((engineFor (some 500)).map (tunedRun.intended (some 25))).mapError .fault := by
  have parsed : tunedRun.Parsed (some 25) (some 500) :=
    ⟨by decide, rfl, by simp, rfl, by simp [Word.size]⟩
  have carried : tunedRun.Carried (some 500) :=
    ⟨by simp [Plain, tunedRun], by simp [Plain, tunedRun],
      by simp [Plain, tunedRun], by decide, by simp⟩
  exact ⟨parsed, carried, run_configures_profiler parsed carried pathOnly_clean⟩

/-- A period of zero, which the parser takes, stops the profiler; a switch set in the shell stays
on though the options leave it off; a tab splits a pattern in two, and an empty pattern leaves
no object to select. -/
theorem run_misconfigures_profiler :
    Settings.ofLookup (overInherited { plainRun with samplePeriodUs := some "0" }.environment
        fun _ => none) = .error (.invalidPeriod "0") ∧
      (Settings.ofLookup (overInherited plainRun.environment
          fun name => if name = "CAUSA_END_TO_END" then some "1" else none)).map (·.endToEnd) =
        .ok true ∧
      (Settings.ofLookup (overInherited { plainRun with binaryScope := ["lib\tfoo"] }.environment
          fun _ => none)).map (·.binaryScope) = .ok ["lib", "foo"] ∧
      (Settings.ofLookup (overInherited { plainRun with binaryScope := [""] }.environment
          fun _ => none)).map (·.binaryScope) = .ok [] := by
  exact ⟨rfl, rfl, rfl, rfl⟩

end Runs

end CausalProfiler.Tool
