import CausalProfiler.Profile.Record
import CausalProfiler.Host.Diagnostic
/-!
The files a profiled process sees: a few standard directories, its scratch directory, the null
device, and the files written into them. A path is followed one step at a time from the root, or
from the scratch directory when it is relative: `.` stays, `..` goes up, and every step before the
last must be a directory that exists, so `sub/../log` fails when `sub` is missing. Opening a file
to append creates it when it is missing; a directory, a missing directory on the way and a file
used as a directory are refused with the system's error texts. The kernel's own trees take no
new files: a missing name under `/proc` is not found, and one under `/sys` may not be made. The
null device reads as empty and drops what is written to it.
-/
namespace CausalProfiler.Host

/-- Why a file cannot be opened. -/
inductive OpenError where
  | notFound
  | isDirectory
  | notDirectory
  | permissionDenied
deriving Repr, DecidableEq

def OpenError.message : OpenError → String
  | .notFound => "No such file or directory (os error 2)"
  | .isDirectory => "Is a directory (os error 21)"
  | .notDirectory => "Not a directory (os error 20)"
  | .permissionDenied => "Permission denied (os error 13)"

/-- A path as the names of its steps from the root. -/
abbrev FilePath := List String

/-- What a file holds: text, or bytes that are no text, such as a copied program. -/
inductive FileData where
  | text (t : String)
  | binary
deriving Repr, DecidableEq

/-- Directories, files with their contents, devices that read as empty, and the working directory
that relative paths start from. -/
structure FileSystem where
  dirs : List FilePath
  files : List (FilePath × FileData)
  sinks : List FilePath
  cwd : FilePath

namespace FileSystem

/-- The top directories of the system. -/
def systemDirs : List FilePath :=
  [[], ["bin"], ["dev"], ["etc"], ["home"], ["lib"], ["opt"], ["proc"], ["root"], ["run"],
   ["sys"], ["tmp"], ["usr"], ["var"]]

/-- The standard directories, the null device and an empty scratch directory to work in. -/
def initial : FileSystem :=
  ⟨systemDirs ++ [[scratch]], [], [["dev", "null"]], [scratch]⟩

def isDir (fs : FileSystem) (p : FilePath) : Bool := fs.dirs.contains p

def isFile (fs : FileSystem) (p : FilePath) : Bool := fs.files.any (·.1 == p)

def isSink (fs : FileSystem) (p : FilePath) : Bool := fs.sinks.contains p

/-- Follows the steps of a path from `here`, which must be a directory before each step. -/
def follow (fs : FileSystem) (here : FilePath) : List String → Except OpenError FilePath
  | [] => .ok here
  | step :: rest =>
    if fs.isDir here then
      if step = "." then fs.follow here rest
      else if step = ".." then fs.follow here.dropLast rest
      else fs.follow (here ++ [step]) rest
    else if fs.isFile here || fs.isSink here then .error .notDirectory
    else .error .notFound

/-- Where a path leads: relative paths start in the working directory, and empty steps are
skipped. -/
def resolve (fs : FileSystem) (path : String) : Except OpenError FilePath :=
  let start : FilePath := if path.startsWith "/" then [] else fs.cwd
  fs.follow start ((path.splitOn "/").filter (· ≠ ""))

/-- Whether a path names a directory by ending in `/`. -/
def endsAsDirectory (path : String) : Bool := path.endsWith "/"

/-- Opens a file to append to, creating it when missing: the file's steps. -/
def openAppend (fs : FileSystem) (path : String) : Except OpenError (FilePath × FileSystem) := do
  let p ← fs.resolve path
  if fs.isDir p then throw .isDirectory
  else if fs.isSink p then pure (p, fs)
  else if fs.isFile p then
    if endsAsDirectory path then throw .notDirectory else pure (p, fs)
  else if endsAsDirectory path then throw .isDirectory
  else if p.head? = some "proc" then throw .notFound
  else if p.head? = some "sys" then throw .permissionDenied
  else pure (p, { fs with files := fs.files ++ [(p, .text "")] })

/-- Writes a file, replacing what stood at its steps. -/
def write (fs : FileSystem) (p : FilePath) (d : FileData) : FileSystem :=
  { fs with files := fs.files.filter (·.1 != p) ++ [(p, d)], dirs := fs.dirs.filter (· != p) }

/-- Removes a file. -/
def remove (fs : FileSystem) (p : FilePath) : FileSystem :=
  { fs with files := fs.files.filter (·.1 != p) }

/-- Puts a directory where a file was. -/
def makeDir (fs : FileSystem) (p : FilePath) : FileSystem :=
  { fs.remove p with dirs := fs.dirs ++ [p] }

/-- Appends records to a file, each on its own line; the null device drops them. -/
def append (fs : FileSystem) (p : FilePath) (rs : List Record) : FileSystem :=
  let added := String.join (rs.map fun r => r.render ++ "\n")
  { fs with files := fs.files.map fun (q, d) =>
      if q = p then
        match d with
        | .text t => (q, .text (t ++ added))
        | .binary => (q, .binary)
      else (q, d) }

/-- Opens a file to read: what it holds, or why it cannot be read. The null device reads as
empty. -/
def readFile (fs : FileSystem) (path : String) : Except OpenError FileData := do
  let p ← fs.resolve path
  if fs.isDir p then throw .isDirectory
  else if fs.isSink p then pure (.text "")
  else match fs.files.find? (·.1 == p) with
    | some (_, d) => if endsAsDirectory path then throw .notDirectory else pure d
    | none => throw .notFound

/-- What a file holds, if the path leads to a readable one. -/
def read? (fs : FileSystem) (path : String) : Option FileData := (fs.readFile path).toOption

/-- Puts a file at the steps below the working directory, with the directories on its way. -/
def put (fs : FileSystem) (steps : FilePath) (d : FileData) : FileSystem :=
  let p := fs.cwd ++ steps
  let ways := ((List.range p.length).map fun i => p.take i).filter fun q => !fs.isDir q
  let written := fs.write p d
  { written with dirs := written.dirs ++ ways }

end FileSystem

end CausalProfiler.Host
