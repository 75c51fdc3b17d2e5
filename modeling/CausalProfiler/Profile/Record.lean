import CausalProfiler.Text.Blank
/-!
Log records. A record is one line: its kind, then `key=value` fields, all separated by tabs.
Reading a line back takes the text before the first tab as the kind and splits each later piece
at its first `=`; a piece without `=` is no field, and of two fields with one key the first
counts.
-/
namespace CausalProfiler

/-- A record of the profile log: its kind and its fields in order. -/
structure Record where
  kind : String
  fields : List (String × String)
deriving Repr, DecidableEq

namespace Record

/-- The text of a record, tab-separated. -/
def render (r : Record) : String :=
  "\t".intercalate (r.kind :: r.fields.map fun (k, v) => k ++ "=" ++ v)

/-- Splits a piece at its first `=`. -/
def splitField (piece : List Char) : Option (String × String) :=
  if piece.contains '=' then
    some (String.ofList (piece.takeWhile (· ≠ '=')),
      String.ofList ((piece.dropWhile (· ≠ '=')).drop 1))
  else none

/-- Reads one line of the log as a record. -/
def ofLine (text : String) : Record :=
  match text.toList.splitOn '\t' with
  | [] => ⟨"", []⟩
  | kind :: pieces => ⟨String.ofList kind, pieces.filterMap splitField⟩

/-- The first value given for `key`. -/
def field? (r : Record) (key : String) : Option String := r.fields.lookup key

/-- The fields whose values come from the clock. -/
def clockKeys : List String := ["time", "duration", "counter-overhead"]

/-- The record with every value read off the clock replaced by `*`, so that two runs of one
program give equal records. -/
def masked (r : Record) : Record :=
  { r with fields := r.fields.map fun (k, v) => (k, if clockKeys.contains k then "*" else v) }

/-- A line of a log with every value read off the clock replaced by `*`: the pieces after the
first whose key is a clock key. Other text stays as it is. -/
def maskLine (line : String) : String :=
  match line.splitOn "\t" with
  | [] => line
  | kind :: pieces => "\t".intercalate (kind :: pieces.map fun piece =>
      match splitField piece.toList with
      | some (k, _) => if clockKeys.contains k then k ++ "=*" else piece
      | none => piece)

/-- The kind of the record a line holds: its text before the first tab. -/
def kindOfLine (line : String) : String := ((line.splitOn "\t").head?).getD line

end Record

end CausalProfiler
