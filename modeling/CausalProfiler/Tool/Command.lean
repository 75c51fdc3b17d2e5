import CausalProfiler.CommandLine.Parse
import CausalProfiler.Settings
/-!
The command line of the cargo subcommand: `cargo causa run` builds a target with debug
information and runs it under the profiler, and `cargo causa report` ranks the lines of a
profile log. The options of `run` become the profiler's environment variables.
-/
namespace CausalProfiler.Tool

open CommandLine

/-- The arguments of `cargo causa run`. -/
def runArgs : List Arg :=
  [{ id := "bin", long := some "bin", valueName := "BIN", help := "Binary target to build and run" },
   { id := "example", long := some "example", valueName := "EXAMPLE", conflicts := ["bin"],
     help := "Example target to build and run" },
   { id := "release", long := some "release", action := .flag },
   { id := "output", long := some "output", short := some 'o', valueName := "OUTPUT", kind := .path,
     default := some Settings.defaultOutput, help := "Profile log to append to" },
   { id := "preload", long := some "preload", valueName := "LIBCAUSA", kind := .path,
     help := "Inject this build of \x60libcausa.so\x60 with \x60LD_PRELOAD\x60 so pthread calls and all threads are profiled without code changes" },
   { id := "binary_scope", long := some "binary-scope", action := .repeated, valueName := "PATTERN",
     help := "Objects whose lines may be selected (\x60MAIN\x60 is the main executable, \x60%\x60 matches anything). Repeatable" },
   { id := "source_scope", long := some "source-scope", action := .repeated, valueName := "PATTERN",
     help := "Source files whose lines may be selected. Repeatable" },
   { id := "progress_points", long := some "progress-point", action := .repeated, valueName := "NAME",
     help := "Throughput points to register before they are first visited. Repeatable" },
   { id := "fixed_line", long := some "fixed-line", valueName := "FIXED_LINE",
     help := "Only ever select this line (\x60file:line\x60)" },
   { id := "fixed_speedup", long := some "fixed-speedup", valueName := "FIXED_SPEEDUP",
     kind := .ranged 0 100, help := "Always use this virtual speedup, in percent" },
   { id := "end_to_end", long := some "end-to-end", action := .flag,
     help := "Run a single experiment covering the whole execution" },
   { id := "arrival_speedup", long := some "arrival-speedup", action := .flag,
     help := "Also speed up arrivals by a drawn share of every sample period" },
   { id := "sample_period_us", long := some "sample-period-us", valueName := "SAMPLE_PERIOD_US",
     kind := .unsigned 64, help := "CPU-time sampling period in microseconds" },
   { id := "verbose", long := some "verbose", short := some 'v', action := .flag,
     help := "Print profiler diagnostics" },
   { id := "args", action := .repeated, valueName := "ARGS", last := true,
     help := "Arguments passed to the profiled program" }]

/-- The names of the report formats. -/
def formatNames : List String := ["text", "json", "csv"]

/-- The arguments of `cargo causa report`. -/
def reportArgs : List Arg :=
  [{ id := "input", valueName := "INPUT", kind := .path, default := some Settings.defaultOutput,
     help := "Profile log written by \x60cargo causa run\x60" },
   { id := "format", long := some "format", short := some 'f', valueName := "FORMAT",
     kind := .choice formatNames, default := some "text" },
   { id := "min_points", long := some "min-points", valueName := "MIN_POINTS", kind := .unsigned 64,
     default := some "5", help := "Minimum number of distinct speedups a line needs to be ranked" },
   { id := "top", long := some "top", valueName := "TOP", kind := .unsigned 64, default := some "10",
     help := "Number of most-sampled lines to list" }]

/-- The version of the subcommand. -/
def toolVersion : String := "0.1.0"

/-- The command line, from `cargo` down. -/
def cargoCommand : Command :=
  let run : Command :=
    { name := "run", about := some "Build a target with debug info and run it under the profiler"
      args := runArgs }
  let report : Command :=
    { name := "report", about := some "Rank source lines by causal impact from a profile log"
      args := reportArgs }
  let causa : Command :=
    { name := "causa", about := some "Causal profiler for Rust programs", version := some toolVersion
      subcommands := [run, report] }
  { name := "cargo", subcommands := [causa] }

/-- What `run` is asked to build and how to run it. -/
structure RunOptions where
  bin : Option String
  exampleTarget : Option String
  release : Bool
  output : String
  preload : Option String
  binaryScope : List String
  sourceScope : List String
  progressPoints : List String
  fixedLine : Option String
  /-- The fixed speedup in plain decimal form. -/
  fixedSpeedup : Option String
  endToEnd : Bool
  arrivalSpeedup : Bool
  /-- The sample period in plain decimal form. -/
  samplePeriodUs : Option String
  verbose : Bool
  args : List String

/-- What `report` reads and how it writes the report. -/
structure ReportOptions where
  input : String
  format : String
  minPoints : Nat
  top : Nat

/-- The values of an argument. -/
def valuesOf (values : List (String × List String)) (id : String) : List String :=
  (values.lookup id).getD []

def RunOptions.ofValues (vs : List (String × List String)) : RunOptions :=
  let one := fun id => (valuesOf vs id).head?
  let on := fun id => !(valuesOf vs id).isEmpty
  { bin := one "bin", exampleTarget := one "example", release := on "release",
    output := (one "output").getD Settings.defaultOutput, preload := one "preload",
    binaryScope := valuesOf vs "binary_scope", sourceScope := valuesOf vs "source_scope",
    progressPoints := valuesOf vs "progress_points", fixedLine := one "fixed_line",
    fixedSpeedup := one "fixed_speedup", endToEnd := on "end_to_end",
    arrivalSpeedup := on "arrival_speedup", samplePeriodUs := one "sample_period_us",
    verbose := on "verbose", args := valuesOf vs "args" }

def ReportOptions.ofValues (vs : List (String × List String)) : ReportOptions :=
  let one := fun id d => ((valuesOf vs id).head?).getD d
  { input := one "input" Settings.defaultOutput, format := one "format" "text",
    minPoints := ((one "min_points" "5").toNat?).getD 5, top := ((one "top" "10").toNat?).getD 10 }

/-- The environment `run` gives the profiled program: profiling on, the log, and each option
given, lists joined by tabs. -/
def RunOptions.environment (o : RunOptions) : List (String × String) :=
  let list := fun (key : String) (vs : List String) => if vs.isEmpty then [] else [(key, "\t".intercalate vs)]
  let opt := fun (key : String) (v : Option String) => (v.map fun v => (key, v)).toList
  let switch := fun (key : String) (b : Bool) => if b then [(key, "1")] else []
  [("CAUSA_ENABLED", "1"), ("CAUSA_OUTPUT", o.output)] ++
    list "CAUSA_BINARY_SCOPE" o.binaryScope ++ list "CAUSA_SOURCE_SCOPE" o.sourceScope ++
    list "CAUSA_PROGRESS_POINTS" o.progressPoints ++ opt "CAUSA_FIXED_LINE" o.fixedLine ++
    opt "CAUSA_FIXED_SPEEDUP" o.fixedSpeedup ++ opt "CAUSA_SAMPLE_PERIOD_US" o.samplePeriodUs ++
    switch "CAUSA_END_TO_END" o.endToEnd ++ switch "CAUSA_ARRIVAL_SPEEDUP" o.arrivalSpeedup ++
    switch "CAUSA_VERBOSE" o.verbose ++ opt "LD_PRELOAD" o.preload

end CausalProfiler.Tool
