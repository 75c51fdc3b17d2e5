import CausalProfiler.Text.Blank
import CausalProfiler.Text.Lines
import CausalProfiler.Number.Read
import CausalProfiler.Sorted
/-!
Process memory maps. Each line lists an address range, permissions, a file offset, a device, an
inode and a path. Only lines with all six fields and an absolute path count. An object is the
set of lines of one path: it is executable when some line is, and its base is the lowest start
of its lines at file offset zero. The result lists the executable objects with a base, by path.
-/
namespace CausalProfiler

/-- A loaded object: its path and the address its file offset zero is mapped at. -/
structure MappedObject where
  path : String
  base : Nat
deriving Repr, DecidableEq

/-- What the lines of one path say so far. -/
structure MapEntry where
  executable : Bool
  base : Option Nat

/-- Adds one line of the maps to the objects seen so far. -/
def addMapLine (objects : List (String × MapEntry)) (line : String) : List (String × MapEntry) :=
  match Text.fieldsOf line with
  | range :: perms :: offset :: _ :: _ :: path :: _ =>
    if !path.startsWith "/" then objects
    else
      let low := String.ofList (range.toList.takeWhile (· ≠ '-'))
      match (if range.toList.contains '-' then Number.readHex? Number.wordMax low else none) with
      | none => objects
      | some start =>
        let atZero := Number.readHex? Number.wordMax offset == some 0
        Sorted.alter path ⟨false, none⟩ (fun e =>
          { executable := e.executable || perms.toList.contains 'x'
            base := if atZero then some (match e.base with | some b => min b start | none => start)
              else e.base }) objects
  | _ => objects

/-- The executable objects of a maps text, by path. -/
def parseMaps (text : String) : List MappedObject :=
  ((Text.linesOf text).foldl addMapLine []).filterMap fun (path, e) =>
    if e.executable then e.base.map (⟨path, ·⟩) else none

end CausalProfiler
