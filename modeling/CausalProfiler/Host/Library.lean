import CausalProfiler.Profiler
import CausalProfiler.Sync
import CausalProfiler.Profile.Read
import CausalProfiler.Host.Files
import CausalProfiler.Host.Loader
/-!
The profiling library inside one process: the installed profiler, the controller's log, the
calling thread, the counters of instrumented call sites, and what the process wrote to its error
stream.

Starting reads the line tables, installs the profiler, profiles the calling thread, opens the
log and starts the controller, which writes its startup records at once and its final records
when the profiler shuts down. Time is not modelled: the controller's rounds, the samples of busy
threads and inserted delays depend on the clock and leave the first, second and last records of
the log as they are. In verbose mode starting also says how many line rows each object gave,
how many source lines are in scope, and where the controller logs.

A call site's counter looks its point up on the first visit made while a profiler is installed
and keeps the result; a point that does not fit in the registry is warned about once per
counter and its visits are lost.
-/
namespace CausalProfiler.Host

/-- Why the profiler does not start. -/
inductive StartupError where
  | config (e : SettingsError)
  | outputOpen (path : String) (e : OpenError)
  | alreadyInstalled
deriving Repr, DecidableEq

def StartupError.message : StartupError → String
  | .config e => "invalid configuration: " ++ e.message
  | .outputOpen path e => "failed to open " ++ path ++ ": " ++ e.message
  | .alreadyInstalled => "the profiler is already running"

/-- How a counter counts. -/
inductive CounterKind where
  | throughput
  | begin
  | finish
deriving Repr, DecidableEq

/-- A counter of a call site: its point's name and kind, and, once looked up, whether the
point exists. -/
structure Counter where
  name : String
  kind : CounterKind
  found : Option Bool
deriving Repr, DecidableEq

/-- A summary of a profile log: its first two records masked, the kind of its last record, and
whether it reads as a profile. -/
structure LogSummary where
  first : Option String
  second : Option String
  lastKind : Option String
  parses : Bool
deriving Repr, DecidableEq

/-- The summary of a log's text. -/
def LogSummary.ofText (text : String) : LogSummary :=
  let lines := Text.linesOf text
  ⟨lines[0]?.map Record.maskLine, lines[1]?.map Record.maskLine, lines.getLast?.map Record.kindOfLine,
    match Profile.ofLog text with
    | .ok _ => true
    | .error _ => false⟩

/-- The library's state in a process. -/
structure Library where
  /-- The directory of the package the library was built from, whose `src` holds its own
  sources. -/
  manifestDir : String
  env : String → Option String
  files : FileSystem
  mapped : List MappedFile
  installed : Option Profiler
  /-- The controller's log, once the controller runs. -/
  log : Option FilePath
  /-- The thread making the calls. -/
  current : Nat
  nextThread : Nat
  counters : List (String × Counter)
  diagnostics : List Diagnostic

namespace Library

/-- A fresh process running the library built from the package at `manifestDir`, with an
environment and mapped files; its main thread is thread 1. -/
def create (manifestDir : String) (env : String → Option String) (mapped : List MappedFile) :
    Library :=
  ⟨manifestDir, env, FileSystem.initial, mapped, none, none, 1, 2, [], []⟩

def note (lib : Library) (d : Diagnostic) : Library := { lib with diagnostics := lib.diagnostics ++ [d] }

def warn (lib : Library) (text : String) : Library := lib.note (.warning text)

def setProfiler (lib : Library) (p : Profiler) : Library := { lib with installed := some p }

/-- The calling thread's slot, when it is profiled. -/
def currentSlot? (lib : Library) : Option Nat :=
  lib.installed.bind fun p => p.slot? lib.current

/-- The calling thread's paid delay, when it is profiled. -/
def localDelay? (lib : Library) : Option Nat :=
  lib.installed.bind fun p => (p.slot? lib.current).map fun i => (p.account i).paid

/-- Profiles the calling thread from a starting delay (its parent's, else the global delay);
whether it could be. A full table is warned about. -/
def beginSampling (lib : Library) (inherited : Option Nat) : Option Bool × Library :=
  match lib.installed with
  | none => (none, lib)
  | some p =>
    match p.register lib.current (inherited.getD p.global) with
    | .ok (some _, p) => (some true, lib.setProfiler p)
    | _ => (some false, lib.warn ("thread table is full; thread " ++ threadPlaceholder ++
        " will not be profiled"))

/-- Stops profiling the calling thread. -/
def endSampling (lib : Library) : Library :=
  match lib.installed with
  | none => lib
  | some p => lib.setProfiler (p.unregister lib.current)

/-- A blocking or waking call made by the calling thread, under the delay protocol. -/
def intercept (lib : Library) (op : SyncOp) (succeeds : Bool) : Library :=
  match lib.installed, lib.currentSlot? with
  | some p, some i => lib.setProfiler (p.intercept i op (fun q => ((), q)) fun _ => succeeds).2
  | _, _ => lib

/-- The records the controller writes when it starts. -/
def startupRecords (p : Profiler) : List Record :=
  [⟨"startup", [("time", "0")]⟩,
   ⟨"info", [("sample-period", toString p.engine.samplePeriod), ("counter-overhead", "0")]⟩]

/-- The records the controller writes when the profiler stops. -/
def finalRecords (p : Profiler) : List Record :=
  [⟨"runtime", [("time", "0")]⟩] ++
  ((p.map.lines.zip p.samples).filter (0 < ·.2)).map (fun (l, n) =>
    ⟨"samples", [("location", l.name), ("count", toString n)]⟩) ++
  [⟨"shutdown", [("time", "0")]⟩]

/-- Starts profiling with the given settings. -/
def start (lib : Library) (s : Settings) : Except StartupError Unit × Library :=
  let loaded := load lib.manifestDir s lib.mapped
  let (map, warnings) := (loaded.map, loaded.diagnostics)
  let counted := if s.verbose then [Diagnostic.info (toString loaded.lineCount ++ " source lines in scope")] else []
  let lib := { lib with diagnostics := lib.diagnostics ++ warnings ++ counted }
  match lib.installed with
  | some _ => (.error .alreadyInstalled, lib)
  | none =>
    let lib := lib.setProfiler (Profiler.create s map)
    let (_, lib) := lib.beginSampling none
    match lib.files.openAppend s.output with
    | .error e => (.error (.outputOpen s.output e), lib)
    | .ok (path, files) =>
      let lib := match s.fixedLine with
        | some name => if (map.findByName? name).isSome then lib
          else lib.warn ("fixed line " ++ name ++ " not found; selecting lines by sampling")
        | none => lib
      let records := match lib.installed with
        | some p => startupRecords p
        | none => []
      let lib := if s.verbose then lib.note (.info ("controller started, logging to " ++ s.output)) else lib
      (.ok (), { lib with files := files.append path records, log := some path })

/-- Stops profiling the calling thread and the profiler; a running controller writes its
final records. -/
def shutdown (lib : Library) : Library :=
  match lib.installed with
  | none => lib
  | some p =>
    let lib := lib.endSampling
    let p' := (lib.installed.getD p)
    let wasRunning := p'.running
    let lib := lib.setProfiler p'.shutdown
    match lib.log with
    | some path => if wasRunning then { lib with files := lib.files.append path (finalRecords p') } else lib
    | none => lib

/-- Looks a point up for a counter: whether it exists, creating it when there is room. A full
registry is warned about. -/
def lookUp (lib : Library) (p : Profiler) (c : Counter) : Bool × Library :=
  let found := match c.kind with
    | .throughput => p.points.throughputPoint c.name
    | _ => p.points.latencyPoint c.name
  match found with
  | some r => (true, lib.setProfiler { p with points := r })
  | none =>
    let what := match c.kind with
      | .throughput => "throughput"
      | _ => "latency"
    (false, lib.warn ("progress point limit reached; ignoring " ++ what ++ " point " ++ c.name))

/-- Counts `k` visits of a counter's point in a registry. -/
def countVisits (c : Counter) (k : Nat) (r : Registry) : Registry :=
  let kind : PointKind := match c.kind with
    | .throughput => .throughput
    | .begin => .begin
    | .finish => .finish
  (r.visit kind c.name k).getD r

/-- Visits the counter of a call site, keyed by `key`, created as `init` on its first use. -/
def visitCounter (lib : Library) (key : String) (init : Counter) : Library :=
  let c := (lib.counters.lookup key).getD init
  let store := fun (lib : Library) (c : Counter) =>
    { lib with counters := (key, c) :: lib.counters.filter (·.1 != key) }
  match lib.installed with
  | none => store lib c
  | some p =>
    match c.found with
    | some false => store lib c
    | some true => store (lib.setProfiler { p with points := countVisits c 1 p.points }) c
    | none =>
      let (found, lib) := lib.lookUp p c
      let c := { c with found := some found }
      let lib := store lib c
      if found then
        match lib.installed with
        | some p => lib.setProfiler { p with points := countVisits c 1 p.points }
        | none => lib
      else lib

/-- Counts `k` more visits of a call site's counter whose look-up is settled: on its point
when the point was found, and nowhere otherwise or without a profiler. Every visit after a
counter's first one does just this, so `k` of them add `k` at once. -/
def recount (lib : Library) (key : String) (k : Nat) : Library :=
  match lib.installed, lib.counters.lookup key with
  | some p, some c =>
    if c.found = some true ∧ 0 < k then lib.setProfiler { p with points := countVisits c k p.points }
    else lib
  | _, _ => lib

/-- Keeps a counter for a call site that has none yet. -/
def keepCounter (lib : Library) (key : String) (c : Counter) : Library :=
  if (lib.counters.lookup key).isSome then lib else { lib with counters := (key, c) :: lib.counters }

/-- Visits the counter of a call site `n` times, making it first if the site has none: the first
visit looks its point up, the others only count. -/
def visitCounterTimes (lib : Library) (key : String) (init : Counter) : Nat → Library
  | 0 => lib.keepCounter key init
  | k + 1 => (lib.visitCounter key init).recount key k

/-- The summary of the log at a path, if it leads to a file of text. -/
def logSummary? (lib : Library) (path : String) : Option LogSummary :=
  match lib.files.read? path with
  | some (.text t) => some (LogSummary.ofText t)
  | _ => none

end Library

end CausalProfiler.Host
