/-!
Lines of a text. A line ends at a newline, and a return just before that newline belongs to
the ending rather than the line; a return anywhere else stays. A final newline ends the last
line and starts no new one, and an empty text has no lines.
-/
namespace CausalProfiler.Text

/-- Drops one return at the end. -/
def dropReturn (cs : List Char) : List Char :=
  if cs.getLast? = some '\r' then cs.dropLast else cs

/-- The lines of `cs`: the pieces between newlines, each that was followed by a newline
without its final return. -/
def lines (cs : List Char) : List (List Char) :=
  let pieces := cs.splitOn '\n'
  match cs.getLast? with
  | none => []
  | some '\n' => pieces.dropLast.map dropReturn
  | some _ => (pieces.dropLast.map dropReturn) ++ pieces.getLast?.toList

/-- `lines` on strings. -/
def linesOf (s : String) : List String := (lines s.toList).map String.ofList

end CausalProfiler.Text
