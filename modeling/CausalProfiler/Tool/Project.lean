import CausalProfiler.Host.Library
import CausalProfiler.Host.Probe
import CausalProfiler.Host.SharedObject
import CausalProfiler.Text.Quoted
import CausalProfiler.Text.Similarity
/-!
The package that `cargo causa run` builds and runs. Its programs are binaries and examples;
each prints its name and its arguments, and may list the profiler's environment and honour
`--exit N`. Building a target that does not exist fails with cargo's message, which names the
target of the same kind with the closest name when it is at most three edits away. A release
build keeps no line tables.

A program runs with the libraries named in `LD_PRELOAD` loaded first. A name that cannot be
loaded is reported and ignored; the profiling library starts the profiler from the environment
before the program runs, and a bad configuration or an output that cannot be opened aborts it.
-/
namespace CausalProfiler.Tool

open Host

/-- The two kinds of program a package builds. -/
inductive TargetKind where
  | binary
  /-- An example program. -/
  | sample
deriving Repr, DecidableEq

/-- How cargo names a kind of target. -/
def TargetKind.word : TargetKind → String
  | .binary => "bin"
  | .sample => "example"

structure Target where
  kind : TargetKind
  name : String
  /-- Its source file, relative to the package's directory. -/
  source : String
  /-- Whether it lists the profiler's environment variables it was given. -/
  showsEnvironment : Bool
  /-- Whether `--exit N` among its arguments makes it exit with status `N`. -/
  honoursExit : Bool
  /-- The lines of its source file that carry code. -/
  codeLines : List Nat
  /-- The standard library's line rows in its debug build. -/
  library : LibraryRows

structure Project where
  package : String
  /-- The package's directory. -/
  root : String
  targets : List Target
  /-- The profiling library that `--preload` may name, and the directory of the package it was
  built from. -/
  library : String
  libraryPackage : String
  /-- The shared objects every program of the package maps. -/
  systemLibraries : List String
  /-- The files around the working directory, which is a directory of the package's. -/
  workspace : FileSystem

/-- Which targets a build asks for. -/
inductive Selection where
  | named (kind : TargetKind) (name : String)
  | all

/-- The closest name within three edits, the first of equally close ones. -/
def closestName? (word : String) (names : List String) : Option String :=
  let scored := names.filterMap fun n =>
    let d := Text.editDistance word n
    if d ≤ 3 then some (d, n) else none
  (scored.foldl (fun best x => match best with
    | some b => if x.1 < b.1 then some x else some b
    | none => some x) none).map (·.2)

namespace Project

def targetsOf (p : Project) (kind : TargetKind) : List Target := p.targets.filter (·.kind = kind)

/-- Builds the selected targets: the error lines when a named target does not exist, which
name the closest target of the kind when one is close, and list the targets of the kind
otherwise. -/
def build (p : Project) (sel : Selection) : Except (List String) Unit :=
  match sel with
  | .all => .ok ()
  | .named kind name =>
    let names := (p.targetsOf kind).map (·.name)
    if names.contains name then .ok ()
    else
      .error (["error: no " ++ kind.word ++ " target named \x60" ++ name ++ "\x60 in default-run packages"] ++
        match closestName? name names with
        | some n => ["", "help: a target with a similar name exists: \x60" ++ n ++ "\x60"]
        | none =>
          if names.isEmpty then []
          else ["help: available " ++ kind.word ++ " targets:"] ++
            (names.mergeSort fun a b => decide (a ≤ b)).map ("    " ++ ·))

/-- Where a build puts a program. -/
def programPath (p : Project) (release : Bool) (kind : TargetKind) (name : String) : String :=
  p.root ++ "/target/" ++ (if release then "release" else "debug") ++
    (if kind = .sample then "/examples/" else "/") ++ name

/-- The target a built program is, if the build made one of that name. -/
def built? (p : Project) (kind : TargetKind) (name : String) : Option Target :=
  (p.targetsOf kind).find? (·.name == name)

end Project

/-- How a program ended, as the standard library describes it. -/
def statusText : ExitStatus → String
  | .code n => "exit status: " ++ toString n
  | .signal n => "signal: " ++ toString n ++ (if n = abortSignal then " (SIGABRT)" else "")

/-- What the line tables of a built program hold: nothing in a release build, which keeps no
debug information, else the rows of its own source file and the standard library's. -/
def Target.image (t : Target) (root : String) (release : Bool) : Image :=
  if release then .rows []
  else .program (t.codeLines.map fun l => (root ++ "/" ++ t.source, l)) t.library

/-- What running a program shows. -/
structure ProgramRun where
  stdout : String
  stderr : List String
  status : ExitStatus

/-- The status the first `--exit` among the arguments asks for: the next argument read as a
32-bit integer, modulo 256, and 1 when there is none or it does not read. -/
def exitRequest (args : List String) : Option Nat :=
  match args.dropWhile (· != "--exit") with
  | _ :: rest =>
    let code := (rest.head?.bind (Number.readInt? (-(Nat.pow 2 31 : Int)) (Nat.pow 2 31 - 1))).getD 1
    some (code % 256).toNat
  | [] => none

/-- What the program itself prints and how it exits. -/
def Target.behave (t : Target) (args : List String) (env : List (String × String)) :
    String × ExitStatus :=
  let shown := if t.showsEnvironment then
      let vars := (env.filter fun (k, _) => k.startsWith "CAUSA_" || k == "LD_PRELOAD").mergeSort
        fun a b => a.1 ≤ b.1
      String.join (vars.map fun (k, v) => t.name ++ " env " ++ k ++ "=" ++ Text.quoted v ++ "\n")
    else ""
  let listed := "[" ++ ", ".intercalate (args.map Text.quoted) ++ "]"
  let status := if t.honoursExit then (exitRequest args).getD 0 else 0
  (t.name ++ " args=" ++ listed ++ "\n" ++ shown, .code status)

/-- The libraries `LD_PRELOAD` names: separated by spaces or colons. -/
def preloadNames (value : String) : List String :=
  ((value.splitOn " ").flatMap (·.splitOn ":")).filter (!·.isEmpty)

/-- The message of the loader for a library it cannot load. -/
def preloadFailure (name reason : String) : String :=
  "ERROR: ld.so: object '" ++ name ++ "' from LD_PRELOAD cannot be preloaded (" ++ reason ++ "): ignored."

/-- The working directory with the given files written into it. -/
def Project.withFiles (p : Project) (files : List (String × String)) : FileSystem :=
  files.foldl (fun fs (name, text) =>
    fs.put ((name.splitOn "/").filter (· ≠ "")) (.text text)) p.workspace

/-- Runs a built program of the package with its arguments and environment. -/
def Project.runProgram (p : Project) (t : Target) (release : Bool) (path : String)
    (files : List (String × String)) (args : List String) (env : List (String × String)) :
    ProgramRun :=
  let names := ((env.lookup "LD_PRELOAD").map preloadNames).getD []
  let fs := p.withFiles files
  let refused := (names.filter (· != p.library)).filterMap fun n =>
    (preloadRefusal fs n).map fun r => preloadFailure n r.message
  let (stdout, status) := t.behave args env
  if !names.contains p.library then ⟨stdout, refused, status⟩
  else
    let lookup := fun (k : String) => env.lookup k
    let mapped : List MappedFile := ⟨path, true, t.image p.root release⟩ ::
      (p.systemLibraries ++ [p.library]).map fun l => ⟨l, false, .rows []⟩
    let lib := Library.create p.libraryPackage lookup mapped
    let aborted := fun (lib : Library) (d : List Diagnostic) =>
      ProgramRun.mk "" (refused ++ (lib.diagnostics ++ d).map (·.line)) (.signal abortSignal)
    match Settings.ofLookup lookup with
    | .error (.fault _) => aborted lib []
    | .error e => aborted lib [.fatal e.message]
    | .ok s =>
      match lib.start s with
      | (.error (.config e), lib) => aborted lib [.fatal e.message]
      | (.error e, lib) => aborted lib [.fatal e.message]
      | (.ok (), lib) => ⟨stdout, refused ++ lib.shutdown.diagnostics.map (·.line), status⟩

end CausalProfiler.Tool
