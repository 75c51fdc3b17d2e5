import CausalProfiler.Host.Artifact
import CausalProfiler.Host.ObjectFile
/-!
Scripts of library calls made by one process: starting and installing the profiler, profiling
threads, visiting instrumented call sites and counters, the C interface, blocking calls,
spawned threads, mapped files, shutting down and reading the log. The process is a program
linked with the library whose own code has no line tables; its instrumented functions live in
its `lifecycle` module. Each step answers with a result or an error.

A script may also run inside a process that must not install a profiler: there the steps that
would start one or change the process's mappings are refused.
-/
namespace CausalProfiler.Host

/-- The instrumented call sites of the process. -/
inductive Site where
  | progressA
  | progressB
  | begin
  | finish
  | scope
  | profiled
  | named
  | latencyFn
  | latencyPanic
  | timed
deriving Repr, DecidableEq

/-- The program a script runs in: the path of the module of its instrumented functions, and
the files it maps, its own executable first. -/
structure HostProgram where
  module : String
  files : List MappedFile

/-- The counters one visit of a site advances, in order, each under its key; functions named
by their path are in the module `hostModule`. -/
def Site.counters (hostModule : String) : Site → List (String × Counter)
  | .progressA => [("progress_a", ⟨"lc.a", .throughput, none⟩)]
  | .progressB => [("progress_b", ⟨"lc.b", .throughput, none⟩)]
  | .begin => [("begin", ⟨"lc.lat", .begin, none⟩)]
  | .finish => [("end", ⟨"lc.lat", .finish, none⟩)]
  | .scope => [("scope.begin", ⟨"lc.scope", .begin, none⟩), ("scope.end", ⟨"lc.scope", .finish, none⟩)]
  | .profiled => [("profiled", ⟨hostModule ++ "::profiled", .throughput, none⟩)]
  | .named => [("named", ⟨"lc.named", .throughput, none⟩)]
  | .latencyFn | .latencyPanic =>
    [("latfn.begin", ⟨"lc.latfn", .begin, none⟩), ("latfn.end", ⟨"lc.latfn", .finish, none⟩)]
  | .timed => [("timed.begin", ⟨hostModule ++ "::timed", .begin, none⟩),
      ("timed.end", ⟨hostModule ++ "::timed", .finish, none⟩)]

/-- The functions of the C interface. -/
inductive ForeignFn where
  | getCounter
  | progress
  | begin
  | finish
deriving Repr, DecidableEq

/-- A call of the C interface: the kind, the name's bytes before its terminating zero (none
for a null pointer), and for `getCounter` how many visits to add. -/
structure ForeignCall where
  fn : ForeignFn
  kind : Int
  name : Option (List Nat)
  n : Nat

/-- What a spawned thread does. -/
structure SpawnPlan where
  value : Nat
  visits : Nat
  panics : Bool
  nested : Bool

/-- What a mapped file holds: text, or a copy of a built probe. -/
inductive FileContent where
  | text (t : String)
  | artifact (name : String)

/-- A file to write into the scratch directory and map, with bytes to overwrite in one of its
sections. -/
structure MapRequest where
  name : String
  content : FileContent
  patch : Option Patch
  delete : Bool
  replaceWithDir : Bool

inductive LifeStep where
  | init
  | start
  | install (s : Settings) (map : SourceMap)
  | isInstalled
  | beginSampling (inherited : Option Nat)
  | endSampling
  | registered
  | localDelay
  | threads
  | visit (site : Site) (n : Nat)
  | points
  | foreign (call : ForeignCall)
  | intercept (op : SyncOp) (succeeds : Bool)
  | spawn (plan : SpawnPlan)
  | pause
  | timerWait (nanos : Nat)
  /-- A timed wait that another thread interrupts; the wait restarts, so it lasts. -/
  | interruptedWait
  | mapFile (r : MapRequest)
  | counter (id : String) (kind : Option String) (name : Option String) (n : Nat)
  | shutdown
  | readLog
  /-- A step that cannot be made, with the reason. -/
  | refused (reason : String)
  /-- A step that does nothing, such as visiting a site no times. -/
  | skip

/-- The name of a step that installs a profiler or changes the process's mappings, which a
process that must not install one refuses. -/
def LifeStep.needsChild? : LifeStep → Option String
  | .init => some "init"
  | .start => some "start"
  | .install _ _ => some "install"
  | .beginSampling _ => some "begin_sampling"
  | .mapFile _ => some "map_file"
  | _ => none

/-- Why a step fails. -/
inductive LifeError where
  | startup (e : StartupError)
  | settings (e : SettingsError)
  | fault (f : Fault)
  | refused (reason : String)
  | io (message : String)
deriving Repr, DecidableEq

def LifeError.message : LifeError → String
  | .startup e => e.message
  | .settings e => e.message
  | .fault f => f.message
  | .refused r => r
  | .io m => m

inductive LifeReply where
  | nothing
  | flag (b : Bool)
  | word (n : Nat)
  | maybeFlag (b : Option Bool)
  | maybeWord (n : Option Nat)
  | points (r : Option Registry)
  | joined (value : Option Nat)
  | log (s : Option LogSummary)

/-- Whether a name is a plain file name: not empty, without `/`, and not hidden. -/
def plainName (name : String) : Bool :=
  !name.isEmpty && !name.contains '/' && !name.startsWith "."

/-- What the loader finds in a file of text: an object without line tables when the object
reader reads its bytes, else the reader's reason. -/
def textImage (t : String) : Image :=
  match readObject (t.toUTF8.data.map (·.toNat)) with
  | .ok () => .rows []
  | .error reason => .unparsable reason

/-- The image a request's file gives the loader. The name is checked first, then the copied
probe, then the patch. -/
def MapRequest.image (i : Installation) (r : MapRequest) : Except LifeError Image := do
  if !plainName r.name then throw (.refused "name must be a plain file name")
  let linked ← match r.content with
    | .text _ => pure none
    | .artifact name =>
      if !plainName name then throw (.refused "from must be a plain file name")
      else match i.artifact? name with
        | none => throw (.io "No such file or directory (os error 2)")
        | some linked => pure (some linked)
  match r.patch with
  | some p =>
    if p.bytes.any (255 < ·) then throw (.refused "bytes must be 0..255")
    match linked, checkPatch p with
    | some _, .ok () => pure ()
    | some _, .error .outOfRange => throw (.refused "patch out of range")
    | _, _ => throw (.refused "no such section")
  | none => pure ()
  match r.content, linked with
  | _, some linked => pure (i.probeImage linked r.patch)
  | .text t, none => pure (textImage t)
  | .artifact _, none => pure (textImage "")

/-- What a request writes into the scratch directory. -/
def MapRequest.data (r : MapRequest) : FileData :=
  match r.content with
  | .text t => .text t
  | .artifact _ => .binary

namespace Library

/-- The visits of a site: each of its counters in turn, then the other visits, which only
count. -/
def visitSite (lib : Library) (hostModule : String) (site : Site) : Nat → Library
  | 0 => lib
  | k + 1 =>
    let counters := site.counters hostModule
    let lib := counters.foldl (fun lib (key, c) => lib.visitCounter key c) lib
    counters.foldl (fun lib (key, _) => lib.recount key k) lib

/-- Runs a thread spawned by the calling thread and joins it: the thread starts from its
parent's delay, visits `lc.thread`, may spawn and join a thread visiting `lc.nested`, and
stops being profiled when it ends; the join is a credited blocking call. The thread's value,
or none when it panicked. -/
def spawnThread (lib : Library) (plan : SpawnPlan) : Option Nat × Library :=
  let parent := lib.current
  let child := lib.nextThread
  let inherited := lib.localDelay?
  let lib := { lib with current := child, nextThread := child + 1 }
  let (_, lib) := lib.beginSampling inherited
  let lib := lib.visitCounterTimes "thread" ⟨"lc.thread", .throughput, none⟩ plan.visits
  let (value, lib) :=
    if plan.nested then
      let inherited := lib.localDelay?
      let grandchild := lib.nextThread
      let lib := { lib with current := grandchild, nextThread := grandchild + 1 }
      let (_, lib) := lib.beginSampling inherited
      let lib := lib.visitCounter "nested" ⟨"lc.nested", .throughput, none⟩
      let lib := { lib.endSampling with current := child }
      (plan.value + 1, lib.intercept .join true)
    else (plan.value, lib)
  let lib := { lib.endSampling with current := parent }
  (if plan.panics then none else some value, lib.intercept .join true)

/-- The text of C string bytes, if they are valid text. -/
def cText? (bytes : List Nat) : Option String :=
  String.fromUTF8? (ByteArray.mk (bytes.map (·.toUInt8)).toArray)

/-- A call of the C interface: for `getCounter`, the counter's value after adding `n - 1` (no
visit for `n` zero or one), or none for a null counter. -/
def foreign (lib : Library) (call : ForeignCall) : Except Fault (Option Nat) × Library :=
  let name := call.name.bind fun bs => cText? (bs.takeWhile (· ≠ 0))
  match name, lib.installed with
  | some name, some p =>
    match call.fn with
    | .getCounter =>
      let c : Option Counter := if call.kind = 1 then some ⟨name, .throughput, none⟩
        else if call.kind = 2 then some ⟨name, .begin, none⟩
        else if call.kind = 3 then some ⟨name, .finish, none⟩ else none
      match c with
      | none => (.ok none, lib)
      | some c =>
        let (found, lib) := lib.lookUp p c
        if !found then (.ok none, lib)
        else
          let extra := call.n - 1
          let p := lib.installed.getD p
          let r := p.points
          let (r, value) := match c.kind with
            | .throughput =>
              let r := (r.visit .throughput name extra).getD r
              (r, r.visits name)
            | .begin =>
              let r := (r.visit .begin name extra).getD r
              (r, (r.latencyCounts name).begins)
            | .finish =>
              let r := (r.visit .finish name extra).getD r
              (r, (r.latencyCounts name).ends)
          (.ok (some value), lib.setProfiler { p with points := r })
    | fn =>
      let c : Counter := match fn with
        | .progress => ⟨name, .throughput, none⟩
        | .begin => ⟨name, .begin, none⟩
        | _ => ⟨name, .finish, none⟩
      let (found, lib) := lib.lookUp p c
      if found then
        match lib.installed with
        | some p => (.ok none, lib.setProfiler { p with points := countVisits c 1 p.points })
        | none => (.ok none, lib)
      else (.ok none, lib)
  | _, _ => (.ok none, lib)

/-- Writes a file into the scratch directory and maps it; whether the mapping succeeded, which
it does for every file, an empty one included. A file deleted or replaced by a directory after
mapping stays listed under its path, and the loader fails to open it. -/
def mapFile (lib : Library) (i : Installation) (r : MapRequest) : Except LifeError Bool × Library :=
  match r.image i with
  | .error e => (.error e, lib)
  | .ok image =>
    let path := scratch ++ "/" ++ r.name
    let steps : FilePath := [scratch, r.name]
    let files := lib.files.write steps r.data
    let files := if r.replaceWithDir then files.makeDir steps
      else if r.delete then files.remove steps else files
    let image := if r.replaceWithDir then .unmappable "No such device (os error 19)"
      else if r.delete then .unmappable "No such file or directory (os error 2)" else image
    let mapped := lib.mapped.filter (·.path != path) ++ [⟨path, false, image⟩]
    (.ok true, { lib with mapped := mapped, files := files })

/-- The settings the environment gives, or why it gives none. -/
def envSettings (lib : Library) : Except SettingsError Settings := Settings.ofLookup lib.env

/-- Runs one step. -/
def step (lib : Library) (i : Installation) (host : HostProgram) :
    LifeStep → Except LifeError LifeReply × Library
  | .init =>
    if lib.installed.isNone ∧ lib.env "CAUSA_ENABLED" = some "1" then
      match lib.envSettings with
      | .error (.fault f) => (.error (.fault f), lib)
      | .error e => (.error (.startup (.config e)), lib)
      | .ok s => match lib.start s with
        | (.error e, lib) => (.error (.startup e), lib)
        | (.ok (), lib) => (.ok .nothing, lib)
    else (.ok .nothing, lib)
  | .start =>
    match lib.envSettings with
    | .error (.fault f) => (.error (.fault f), lib)
    | .error e => (.error (.settings e), lib)
    | .ok s => match lib.start s with
      | (.error e, lib) => (.error (.startup e), lib)
      | (.ok (), lib) => (.ok .nothing, lib)
  | .install s map =>
    if lib.installed.isSome then (.error (.startup .alreadyInstalled), lib)
    else (.ok .nothing, lib.setProfiler (Profiler.create s map))
  | .isInstalled => (.ok (.flag lib.installed.isSome), lib)
  | .beginSampling inherited =>
    let (b, lib) := lib.beginSampling inherited
    (.ok (.maybeFlag b), lib)
  | .endSampling => (.ok .nothing, lib.endSampling)
  | .registered => (.ok (.flag lib.currentSlot?.isSome), lib)
  | .localDelay => (.ok (.maybeWord lib.localDelay?), lib)
  | .threads => (.ok (.maybeWord (lib.installed.map (·.threads.size))), lib)
  | .visit site n => (.ok .nothing, lib.visitSite host.module site n)
  | .points => (.ok (.points (lib.installed.map (·.points))), lib)
  | .foreign call =>
    let (out, lib) := lib.foreign call
    match out, call.fn with
    | .error f, _ => (.error (.fault f), lib)
    | .ok v, .getCounter => (.ok (.maybeWord v), lib)
    | .ok _, _ => (.ok .nothing, lib)
  | .intercept op succeeds => (.ok (.word 42), lib.intercept op succeeds)
  | .spawn plan =>
    let (v, lib) := lib.spawnThread plan
    (.ok (.joined v), lib)
  | .pause => (.ok .nothing, lib)
  | .timerWait nanos => (.ok (if nanos = 0 then .word 0 else .flag true), lib)
  | .interruptedWait => (.ok (.flag true), lib)
  | .mapFile r =>
    let (out, lib) := lib.mapFile i r
    (out.map .flag, lib)
  | .counter id kind name n =>
    let existing := lib.counters.lookup ("id:" ++ id)
    let made : Except LifeError Counter := match existing with
      | some c => .ok c
      | none => match name with
        | none => .error (.refused "field \x60name\x60 must be a string")
        | some name => match kind with
          | some "throughput" => .ok ⟨name, .throughput, none⟩
          | some "begin" => .ok ⟨name, .begin, none⟩
          | some "end" => .ok ⟨name, .finish, none⟩
          | some other => .error (.refused ("unknown counter kind " ++ Text.quoted other))
          | none => .error (.refused "field \x60kind\x60 must be a string")
    match made with
    | .error e => (.error e, lib)
    | .ok c => (.ok .nothing, lib.visitCounterTimes ("id:" ++ id) c n)
  | .shutdown => (.ok .nothing, lib.shutdown)
  | .readLog => (.ok (.log (lib.logSummary? ((nonEmpty (lib.env "CAUSA_OUTPUT")).getD Settings.defaultOutput))), lib)
  | .refused reason => (.error (.refused reason), lib)
  | .skip => (.ok .nothing, lib)

end Library

/-- The answers of a script run in a host program of an installation, and the process's sorted
diagnostics. A process that must not install a profiler (`guarded`) refuses the steps that
would. -/
def runLifecycle (i : Installation) (host : HostProgram) (guarded : Bool)
    (env : String → Option String) (steps : List LifeStep) :
    List (Except LifeError LifeReply) × List String :=
  let (answers, lib) := steps.foldl (fun (answers, lib) s =>
    let s := match guarded, s.needsChild? with
      | true, some name => .refused ("step \"" ++ name ++ "\" needs a child process")
      | _, _ => s
    let (a, lib) := lib.step i host s
    (answers ++ [a], lib)) ([], Library.create i.libraryPackage env host.files)
  (answers, sortedLines lib.diagnostics)

end CausalProfiler.Host
