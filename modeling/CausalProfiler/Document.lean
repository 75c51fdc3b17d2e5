import CausalProfiler.Number.Format
/-!
Structured documents and their JSON text. Fields keep the order they are given in, numbers are
written with their shortest digits (`0.0`, `0.4`, `1e-7`), and a non-finite double, which JSON
cannot hold, is written `null`. `compact` writes no blanks; `pretty` indents nested values by
two spaces, one element per line.
-/
namespace CausalProfiler

/-- A JSON value whose object fields keep their order. -/
inductive Document where
  | null
  | bool (b : Bool)
  | nat (n : Nat)
  | int (i : Int)
  | float (x : Float)
  | text (s : String)
  | list (items : List Document)
  | record (fields : List (String × Document))

namespace Document

/-- Lower-case hexadecimal, padded to four digits. -/
def hex4 (n : Nat) : List Char :=
  let ds := Nat.toDigits 16 n
  List.replicate (4 - ds.length) '0' ++ ds

/-- One character of a JSON string: quote, backslash and the control characters are
escaped, with the short forms for backspace, form feed, newline, return and tab. -/
def escapeChar (c : Char) : List Char :=
  match c with
  | '"' => ['\\', '"']
  | '\\' => ['\\', '\\']
  | '\n' => ['\\', 'n']
  | '\r' => ['\\', 'r']
  | '\t' => ['\\', 't']
  | _ =>
    if c.toNat = 8 then ['\\', 'b']
    else if c.toNat = 12 then ['\\', 'f']
    else if c.toNat < 0x20 then ['\\', 'u'] ++ hex4 c.toNat
    else [c]

/-- A JSON string literal. -/
def quote (s : String) : String :=
  String.ofList ('"' :: s.toList.flatMap escapeChar ++ ['"'])

/-- The text of a number. -/
def floatText (x : Float) : String := (Number.documentText? x).getD "null"

mutual
/-- Appends a document's JSON text without blanks to `out`. Every piece is appended to the one
growing text, so writing takes time linear in the length of the text. -/
def writeCompact (out : String) : Document → String
  | .null => out ++ "null"
  | .bool b => out ++ (if b then "true" else "false")
  | .nat n => out ++ toString n
  | .int i => out ++ toString i
  | .float x => out ++ floatText x
  | .text s => out ++ quote s
  | .list items => writeCompactItems (out ++ "[") items ++ "]"
  | .record fields => writeCompactFields (out ++ "\x7b") fields ++ "\x7d"

def writeCompactItems (out : String) : List Document → String
  | [] => out
  | [v] => writeCompact out v
  | v :: rest => writeCompactItems (writeCompact out v ++ ",") rest

def writeCompactFields (out : String) : List (String × Document) → String
  | [] => out
  | [(k, v)] => writeCompact (out ++ quote k ++ ":") v
  | (k, v) :: rest => writeCompactFields (writeCompact (out ++ quote k ++ ":") v ++ ",") rest
end

/-- JSON text without blanks. -/
def compact (d : Document) : String := writeCompact "" d

/-- `2 · depth` spaces. -/
def indent (depth : Nat) : String := String.ofList (List.replicate (2 * depth) ' ')

mutual
/-- Appends a document's indented JSON text to `out`: each element of a non-empty list or record
on its own line, two spaces deeper than its container; empty ones are `[]` and `{}`. -/
def writePretty (out : String) (depth : Nat) : Document → String
  | .list [] => out ++ "[]"
  | .record [] => out ++ "\x7b\x7d"
  | .list items =>
    writePrettyItems (out ++ "[\n") (depth + 1) items ++ "\n" ++ indent depth ++ "]"
  | .record fields =>
    writePrettyFields (out ++ "\x7b\n") (depth + 1) fields ++ "\n" ++ indent depth ++ "\x7d"
  | .null => out ++ "null"
  | .bool b => out ++ (if b then "true" else "false")
  | .nat n => out ++ toString n
  | .int i => out ++ toString i
  | .float x => out ++ floatText x
  | .text s => out ++ quote s

def writePrettyItems (out : String) (depth : Nat) : List Document → String
  | [] => out
  | [v] => writePretty (out ++ indent depth) depth v
  | v :: rest => writePrettyItems (writePretty (out ++ indent depth) depth v ++ ",\n") depth rest

def writePrettyFields (out : String) (depth : Nat) : List (String × Document) → String
  | [] => out
  | [(k, v)] => writePretty (out ++ indent depth ++ quote k ++ ": ") depth v
  | (k, v) :: rest =>
    writePrettyFields (writePretty (out ++ indent depth ++ quote k ++ ": ") depth v ++ ",\n") depth rest
end

/-- Indented JSON text, nested values starting at `depth`. -/
def pretty (depth : Nat) (d : Document) : String := writePretty "" depth d

end Document

end CausalProfiler
