import CausalProfiler.Settings
import CausalProfiler.SourceMap
import CausalProfiler.Pattern
import CausalProfiler.Host.Diagnostic
/-!
Loading line tables from the objects mapped into a process. The objects in the binary scope
(`MAIN` names the main executable, other patterns match the path) are read in path order; each
gives its line rows, or a warning when it cannot be mapped, is not an object file, or its debug
information cannot be read. Rows whose source file is in the source scope become lines; in
verbose mode each object read says how many. A process with no line in scope is warned that
experiments will never start.
-/
namespace CausalProfiler.Host

/-- Line rows of the standard library built into a program, known by number only. They all come
from the library's sources, which a source scope takes or leaves as a whole, as it takes or
leaves the file that stands for them. -/
structure LibraryRows where
  /-- A source file of the library, standing for all of them. -/
  file : String
  rows : Nat
  /-- How many distinct lines the rows name. -/
  lines : Nat
deriving Repr, DecidableEq

/-- What the loader finds in a mapped file. -/
inductive Image where
  /-- An object file whose line tables hold these rows of source file and line. -/
  | rows (rows : List (String × Nat))
  /-- A program whose line tables hold its own rows and the standard library's. -/
  | program (rows : List (String × Nat)) (library : LibraryRows)
  /-- A file that cannot be mapped, with the system's error text. -/
  | unmappable (error : String)
  /-- A file that is not an object file, with the reader's reason. -/
  | unparsable (reason : String)
  /-- An object file whose debug information is corrupt, with the reader's error text. -/
  | corrupt (error : String)
deriving Repr, DecidableEq

/-- A file mapped executable into a process. -/
structure MappedFile where
  path : String
  main : Bool
  image : Image
deriving Repr, DecidableEq

/-- Whether the binary scope selects a mapped file. -/
def inBinaryScope (patterns : List String) (f : MappedFile) : Bool :=
  patterns.any fun p => if p = Settings.mainBinary then f.main else Pattern.accepts p f.path

/-- The rows of a file's own sources, when the loader can read the file. -/
def Image.ownRows : Image → Option (List (String × Nat))
  | .rows own => some own
  | .program own _ => some own
  | _ => none

/-- The standard library's rows and lines a source scope takes from an image. -/
def Image.libraryShare (sourceScope : List String) : Image → Nat × Nat
  | .program _ lib => if Pattern.matchesAny sourceScope lib.file then (lib.rows, lib.lines) else (0, 0)
  | _ => (0, 0)

/-- The warning for a file the loader cannot read. -/
def loadWarning (f : MappedFile) : Option Diagnostic :=
  match f.image with
  | .rows _ => none
  | .program _ _ => none
  | .unmappable e => some (.warning ("failed to map " ++ f.path ++ ": " ++ e))
  | .unparsable reason => some (.warning ("failed to parse " ++ f.path ++ ": " ++ reason))
  | .corrupt e => some (.warning ("failed to read debug info in " ++ f.path ++ ": " ++ e))

/-- Adds the in-scope rows of a file, each at its own address range, for the profiler built from
the package at `manifestDir`. -/
def addRows (manifestDir : String) (sourceScope : List String) (b : SourceMapBuilder)
    (rows : List (String × Nat)) : SourceMapBuilder :=
  (rows.filter fun (file, _) => Pattern.matchesAny sourceScope file).foldl
    (fun b (file, line) =>
      let start := 4096 + 16 * b.ranges.length
      b.add manifestDir start (start + 16) file line) b

/-- What the loader says about a file: a warning when it cannot read it, else in verbose mode
how many rows in scope it gave. -/
def loadNote (s : Settings) (f : MappedFile) : Option Diagnostic :=
  match f.image.ownRows with
  | some rows =>
    if s.verbose then
      let count := (rows.filter fun (file, _) => Pattern.matchesAny s.sourceScope file).length +
        (f.image.libraryShare s.sourceScope).1
      some (.info ("loaded " ++ toString count ++ " line rows from " ++ f.path))
    else none
  | none => loadWarning f

/-- What loading gives: the source map of the lines in scope, the standard library's lines in
scope, known by number only, and the loader's diagnostics. -/
structure Loaded where
  map : SourceMap
  libraryLines : Nat
  diagnostics : List Diagnostic

/-- How many source lines are in scope. -/
def Loaded.lineCount (l : Loaded) : Nat := l.map.lines.length + l.libraryLines

/-- Loads the line tables of a process's files in scope, for the profiler built from the package
at `manifestDir`. -/
def load (manifestDir : String) (s : Settings) (files : List MappedFile) : Loaded :=
  let chosen := (files.mergeSort fun a b => decide (a.path ≤ b.path)).filter (inBinaryScope s.binaryScope)
  let b := chosen.foldl (fun b f => match f.image.ownRows with
    | some rows => addRows manifestDir s.sourceScope b rows
    | none => b) SourceMapBuilder.empty
  let map := b.build
  let libraryLines := chosen.foldl (fun n f => n + (f.image.libraryShare s.sourceScope).2) 0
  let warnings := chosen.filterMap (loadNote s)
  ⟨map, libraryLines, if map.lines.isEmpty ∧ libraryLines = 0 then
    warnings ++ [.warning "no source lines in scope; experiments will never start"] else warnings⟩

end CausalProfiler.Host
