import CausalProfiler.Compiler.Lexer
/-!
How the compiler pairs delimiters into token trees, and recovers when they do not pair:

* an opening delimiter is closed by the next closing one of its kind;
* a closing delimiter of another kind is a mismatch: the innermost open delimiter is dropped,
  and the closing one is kept for an outer delimiter of its kind if one is open, else passed
  over; a closing delimiter seen again after a mismatch drops the next open one silently;
* a closing delimiter with nothing open stops the reading, and then the mismatches found at
  parentheses and brackets are left unreported, since the missing opening delimiter explains
  them;
* the end of the text with delimiters open is an error too.

Reading stops at the first closing delimiter with nothing open, so the lexer never reaches the
tokens after it.
-/
namespace CausalProfiler.Compiler

/-- How reading token trees ends. -/
inductive TreeEnd where
  /-- At the end of the text with every delimiter closed. -/
  | balanced
  /-- At a closing delimiter with nothing open. -/
  | unexpected (d : Delimiter)
  /-- At the end of the text with delimiters open. -/
  | unclosed
deriving Repr, DecidableEq

/-- What reading token trees finds: the closing delimiters of the mismatches, in order, how it
ends, and how many tokens it took. -/
structure TreeRead where
  mismatched : List Delimiter
  ending : TreeEnd
  taken : Nat
deriving Repr, DecidableEq

/-- Reads token trees for at most `fuel` steps, with the open delimiters innermost first, the
mismatches so far, the index of the token of the last mismatch, and the index of the next token.
Each step takes a token or drops an open delimiter. -/
def readTrees : Nat → List Delimiter → List Delimiter → Option Nat → Nat → List Token → TreeRead
  | 0, _, mismatched, _, i, _ => ⟨mismatched, .unclosed, i⟩
  | fuel + 1, opened, mismatched, last, i, tokens =>
    match tokens with
    | [] => ⟨mismatched, if opened.isEmpty then .balanced else .unclosed, i⟩
    | t :: rest =>
      match t.kind with
      | .opening d => readTrees fuel (d :: opened) mismatched last (i + 1) rest
      | .closing d =>
        match opened with
        | [] => ⟨mismatched, .unexpected d, i + 1⟩
        | top :: outer =>
          if top = d then readTrees fuel outer mismatched last (i + 1) rest
          else
            let (mismatched, last) :=
              if last = some i then (mismatched, last) else (mismatched ++ [d], some i)
            if outer.contains d then readTrees fuel outer mismatched last i tokens
            else readTrees fuel outer mismatched last (i + 1) rest
      | _ => readTrees fuel opened mismatched last (i + 1) rest

/-- Reads the token trees of a text's tokens from inside the delimiters already open. -/
def readTokenTrees (opened : List Delimiter) (tokens : List Token) : TreeRead :=
  readTrees (2 * tokens.length + opened.length + 1) opened [] none 0 tokens

def mismatchLine (d : Delimiter) : String := "error: mismatched closing delimiter: \x60" ++ d.closer ++ "\x60"

/-- The error lines of reading token trees. -/
def TreeRead.errors (r : TreeRead) : List String :=
  match r.ending with
  | .balanced => r.mismatched.map mismatchLine
  | .unexpected d =>
    (r.mismatched.filter (· = .brace)).map mismatchLine ++
      ["error: unexpected closing delimiter: \x60" ++ d.closer ++ "\x60"]
  | .unclosed => r.mismatched.map mismatchLine ++ ["error: this file contains an unclosed delimiter"]

end CausalProfiler.Compiler
