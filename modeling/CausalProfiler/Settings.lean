import CausalProfiler.Fault
import CausalProfiler.Text.Blank
import CausalProfiler.Text.Quoted
import CausalProfiler.Number.Read
/-!
Profiler settings and how the environment gives them. Engine settings all follow from the sample
period: a batch is ten samples, an experiment lasts at least fifty batches and at most sixty-four
times that, and the pause between experiments is one batch. The environment names the output
file, the binary and source scopes and the progress points (tab-separated lists), a fixed line
and speedup, the end-to-end, arrival-speedup and verbose switches (on only as `1`) and the sample
period in microseconds. A bad speedup is reported before a bad period.
-/
namespace CausalProfiler

/-- How experiments are run. -/
structure EngineSettings where
  samplePeriod : Nat
  sampleBatchSize : Nat
  speedupDivisions : Nat
  zeroSpeedupWeight : Nat
  experimentMinTime : Nat
  experimentMaxTime : Nat
  cooloff : Nat
  targetDelta : Nat
  maxDelayPerExperiment : Nat
  threadCapacity : Nat
  pointCapacity : Nat
deriving Repr, DecidableEq

namespace EngineSettings

/-- The settings for a sample period in nanoseconds; a period so long that an experiment's
length leaves the word is a fault. -/
def ofSamplePeriod (period : Nat) : Except Fault EngineSettings := do
  let batch ← Word.mul period 10
  let minTime ← Word.mul batch 50
  let maxTime ← Word.mul minTime 64
  pure { samplePeriod := period, sampleBatchSize := 10, speedupDivisions := 20,
         zeroSpeedupWeight := 7, experimentMinTime := minTime, experimentMaxTime := maxTime,
         cooloff := batch, targetDelta := 5, maxDelayPerExperiment := 2000000000,
         threadCapacity := 1024, pointCapacity := 1024 }

/-- The default: a sample period of one millisecond. -/
def default : EngineSettings :=
  { samplePeriod := 1000000, sampleBatchSize := 10, speedupDivisions := 20,
    zeroSpeedupWeight := 7, experimentMinTime := 500000000, experimentMaxTime := 32000000000,
    cooloff := 10000000, targetDelta := 5, maxDelayPerExperiment := 2000000000,
    threadCapacity := 1024, pointCapacity := 1024 }

/-- The time a batch of samples takes. -/
def batchPeriod (e : EngineSettings) : Except Fault Nat := Word.mul e.samplePeriod e.sampleBatchSize

end EngineSettings

/-- Everything the profiler is told. -/
structure Settings where
  output : String
  binaryScope : List String
  sourceScope : List String
  progressPoints : List String
  fixedLine : Option String
  fixedSpeedup : Option Nat
  endToEnd : Bool
  arrivalSpeedup : Bool
  verbose : Bool
  engine : EngineSettings
deriving Repr, DecidableEq

/-- The output file when none is named. -/
def Settings.defaultOutput : String := "profile.causa"

/-- The binary scope that names the main executable. -/
def Settings.mainBinary : String := "MAIN"

/-- The defaults: the main executable, every source file, no fixed line or speedup. -/
def Settings.default : Settings :=
  { output := Settings.defaultOutput, binaryScope := [Settings.mainBinary], sourceScope := ["%"],
    progressPoints := [], fixedLine := none, fixedSpeedup := none, endToEnd := false,
    arrivalSpeedup := false, verbose := false, engine := EngineSettings.default }

/-- Why the environment gives no settings. -/
inductive SettingsError where
  | invalidSpeedup (raw : String)
  | invalidPeriod (raw : String)
  | fault (f : Fault)
deriving Repr, DecidableEq

def SettingsError.message : SettingsError → String
  | .invalidSpeedup raw =>
    "fixed speedup must be an integer between 0 and 100, got " ++ Text.quoted raw
  | .invalidPeriod raw =>
    "sample period must be a positive number of microseconds, got " ++ Text.quoted raw
  | .fault f => f.message

/-- The entries of a tab-separated list, empty entries dropped. -/
def splitList (raw : String) : List String :=
  ((raw.toList.splitOn '\t').map String.ofList).filter (!·.isEmpty)

/-- A variable's value when it is set and not empty. -/
def nonEmpty (v : Option String) : Option String := v.filter (!·.isEmpty)

/-- A fixed speedup: a percentage from 0 to 100 after trimming blanks. -/
def readSpeedup (raw : String) : Except SettingsError Nat :=
  match Number.readNat? 255 (Text.trimString raw) with
  | some pct => if pct ≤ 100 then .ok pct else .error (.invalidSpeedup raw)
  | none => .error (.invalidSpeedup raw)

/-- A sample period: a positive number of microseconds after trimming blanks. -/
def readPeriod (raw : String) : Except SettingsError Nat :=
  match Number.readNat? Number.wordMax (Text.trimString raw) with
  | some us => if 0 < us then .ok us else .error (.invalidPeriod raw)
  | none => .error (.invalidPeriod raw)

/-- The settings an environment gives. -/
def Settings.ofLookup (lookup : String → Option String) : Except SettingsError Settings := do
  let d := Settings.default
  let speedup ← match nonEmpty (lookup "CAUSA_FIXED_SPEEDUP") with
    | some raw => some <$> readSpeedup raw
    | none => pure none
  let engine ← match nonEmpty (lookup "CAUSA_SAMPLE_PERIOD_US") with
    | some raw => do
      let us ← readPeriod raw
      let ns ← (Word.mul us 1000).mapError .fault
      (EngineSettings.ofSamplePeriod ns).mapError .fault
    | none => pure d.engine
  let on := fun name => lookup name == some "1"
  pure { output := (nonEmpty (lookup "CAUSA_OUTPUT")).getD d.output
         binaryScope := ((lookup "CAUSA_BINARY_SCOPE").map splitList).getD d.binaryScope
         sourceScope := ((lookup "CAUSA_SOURCE_SCOPE").map splitList).getD d.sourceScope
         progressPoints := ((lookup "CAUSA_PROGRESS_POINTS").map splitList).getD d.progressPoints
         fixedLine := nonEmpty (lookup "CAUSA_FIXED_LINE")
         fixedSpeedup := speedup
         endToEnd := on "CAUSA_END_TO_END"
         arrivalSpeedup := on "CAUSA_ARRIVAL_SPEEDUP"
         verbose := on "CAUSA_VERBOSE"
         engine := engine }

/-- The delay per sample of the fixed speedup: that share of the sample period. -/
def Settings.fixedDelay (s : Settings) : Except Fault (Option Nat) :=
  match s.fixedSpeedup with
  | none => .ok none
  | some pct => do
    let scaled ← Word.mul s.engine.samplePeriod pct
    pure (some (scaled / 100))

end CausalProfiler
