import CausalProfiler.Host.Library
/-!
The probe program: a C program run with the library loaded, either injected before the program
starts or linked into it. Loading the library starts the profiler from the environment; a bad
configuration or a log that cannot be opened is fatal and aborts the process before the program
runs. Each action prints one line of results, which do not depend on the profiler; an unknown
action prints `unknown` and its name. At exit the profiler shuts down and the log is complete.
-/
namespace CausalProfiler.Host

/-- How a process ended. -/
inductive ExitStatus where
  | code (n : Nat)
  | signal (n : Nat)
deriving Repr, DecidableEq

/-- The signal an aborting process dies of. -/
def abortSignal : Nat := 6

/-- The source lines with code in the probe's source file: from its first function to its end,
without the blank and declaration-only lines between them. -/
def probeCodeLines : List Nat :=
  ((List.range 328).map (· + 13)).filter fun l => !([25, 27, 51].contains l)

/-- Where an installation keeps its programs: the probe built with the library injected and the
probe built with it linked in, each with the source file it was compiled from, the profiling
library and the directory of the package it was built from, and the system's shared objects
every process maps. -/
structure Installation where
  injected : String × String
  linked : String × String
  library : String
  libraryPackage : String
  systemLibraries : List String

/-- The last step of a path. -/
def baseName (path : String) : String := ((path.splitOn "/").getLast?).getD path

/-- The probe's executable in one of its builds, with the line tables of its source file. -/
def Installation.probe (i : Installation) (linked : Bool) : MappedFile :=
  let (exe, source) := if linked then i.linked else i.injected
  ⟨exe, true, .rows (probeCodeLines.map fun l => (source, l))⟩

/-- The files mapped into the probe's process: the probe, the system's shared objects, and the
library when it is injected. Only the probe carries line tables. -/
def Installation.probeFiles (i : Installation) (linked : Bool) : List MappedFile :=
  i.probe linked ::
    (i.systemLibraries ++ (if linked then [] else [i.library])).map fun path => ⟨path, false, .rows []⟩

/-- The line an action prints, given how many `ffi` actions ran before it: the counters of the
C interface keep counting from one action to the next, by twelve throughput visits, three
begins and one end each time. -/
def actionLine (ffiBefore : Nat) (action : String) : String :=
  match action with
  | "mutex" => "mutex 0 1 0 0 0"
  | "cond" => "cond 0 0 0 0 7 7 1"
  | "rwlock" => "rwlock 0 0 1 1 0 0 0 0 0 0 0"
  | "barrier" => "barrier serial=1"
  | "join" => "join 1 1 0 3 0 11 0 5"
  | "sigaction" => "sigaction 0 1 0 1 0 0 1 1 1 1"
  | "sigmask" => "sigmask 0 0 0 1 0 0 0 0 1 0"
  | "sigwait" => "sigwait 0 0 0 10 0 10 1 0 10 42 -1 1 -1 1 0"
  | "ffi" =>
    let k := ffiBefore + 1
    "ffi 1 1 1 1 1 1 1 " ++ toString (12 * k) ++ " " ++ toString (3 * k) ++ " " ++ toString k
  | "work" => "work done"
  | "threads" => "threads 0 3 1"
  | other => "unknown " ++ other

/-- The lines the probe prints for its actions: each action's line ends in a newline, and an
action's name may itself hold newlines. -/
def probeOutput (actions : List String) : List String :=
  let (_, text) := actions.foldl (fun ((k, out) : Nat × String) a =>
    (if a = "ffi" then k + 1 else k, out ++ actionLine k a ++ "\n")) (0, "")
  Text.linesOf text

/-- What a run of the probe shows. -/
structure ProbeRun where
  status : ExitStatus
  stdout : List String
  diagnostics : List String
  log : Option LogSummary

/-- The log file a process writes: the configured output, else the default. -/
def outputPath (env : String → Option String) : String :=
  (nonEmpty (env "CAUSA_OUTPUT")).getD Settings.defaultOutput

/-- Runs the probe with the library under an environment. -/
def runProbe (i : Installation) (env : String → Option String) (linked : Bool)
    (actions : List String) : ProbeRun :=
  let lib := Library.create i.libraryPackage env (i.probeFiles linked)
  let aborted := fun (lib : Library) =>
    ProbeRun.mk (.signal abortSignal) [] (sortedLines lib.diagnostics) (lib.logSummary? (outputPath env))
  match Settings.ofLookup env with
  | .error (.fault _) => aborted lib
  | .error e => aborted { lib with diagnostics := lib.diagnostics ++ [.fatal e.message] }
  | .ok s =>
    match lib.start s with
    | (.error (.config e), lib) => aborted { lib with diagnostics := lib.diagnostics ++ [.fatal e.message] }
    | (.error e, lib) => aborted { lib with diagnostics := lib.diagnostics ++ [.fatal e.message] }
    | (.ok (), lib) =>
      let lib := lib.shutdown
      ⟨.code 0, probeOutput actions, sortedLines lib.diagnostics, lib.logSummary? s.output⟩

end CausalProfiler.Host
