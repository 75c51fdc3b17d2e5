import CausalProfiler.Compiler.Tree
/-!
What compiling an attribute whose argument should be one string literal reports. The argument
stands between the attribute's parentheses, with the marked function after it; the compiler
shows, in order:

* the lexer's errors, as it reaches them, and an error that stops it at once;
* the errors of pairing delimiters, after which it stops;
* an attribute that goes on after its parentheses, as a parse error, after which it stops;
* the attribute's own error: an argument that is not one string literal, or a string literal
  with a suffix;
* identifiers that hold emoji, then the errors of lints;
* errors kept back, such as lifetimes starting with a digit, last of all.

The last line counts the errors and the warnings. A literal that runs on past the argument pairs
the quotes of the rest of the program the other way round: `strays` backslashes of the program
fall outside strings then, and its last quote opens a string that never ends.
-/
namespace CausalProfiler.Compiler

/-- The program text after an argument: the attribute's closing delimiters and the marked
function. -/
def programAfter : List Char := ")]\nfn work() \x7b\x7d\n".toList

/-- The delimiters open where the argument starts, innermost first: the attribute's parenthesis
and its bracket. -/
def openAtArgument : List Delimiter := [.paren, .bracket]

/-- The compiler's last line after `errors` errors and `warnings` warnings. -/
def abortLine (errors warnings : Nat) : String :=
  "error: aborting due to " ++
    (if errors = 1 then "1 previous error" else toString errors ++ " previous errors") ++
    (if warnings = 0 then ""
     else if warnings = 1 then "; 1 warning emitted"
     else "; " ++ toString warnings ++ " warnings emitted")

def Note.shownNow : Note → Option String
  | .error line => some line
  | _ => none

def Note.shownLast : Note → Option String
  | .stashed line => some line
  | _ => none

def Note.lintLine : Note → Option String
  | .lint line => some line
  | _ => none

def Note.emojiName : Note → Option String
  | .emojiIdentifier name => some name
  | _ => none

def Note.foreignName : Note → Option String
  | .foreignIdentifier name => some name
  | _ => none

def Note.isWarning : Note → Bool
  | .warning => true
  | _ => false

/-- The characters whose one-letter identifiers look like the letter `l`, as do the program's
own identifiers of that look; the lint on confusable identifiers warns about them. -/
def ellLookAlikes : List Nat :=
  [0x196, 0x1C0, 0x399, 0x406, 0x4C0, 0x16C1, 0x2110, 0x2111, 0x2113, 0x2160, 0x217C, 0x2C92,
   0x2D4F, 0xA4F2, 0xFF29, 0xFF4C]

/-- The warnings of the lints on an identifier past ASCII: one for uncommon characters in it,
one when it looks like an identifier of the program. -/
def identifierWarnings (name : String) : Nat :=
  (if name.toList.all isCommonIdentifierChar then 0 else 1) +
    (match name.toList with
     | [c] => if ellLookAlikes.contains c.toNat then 1 else 0
     | _ => 0)

/-- The lines of a failed compilation: the errors, then the count. -/
def failure (errors : List String) (warnings : Nat) : List String :=
  errors ++ [abortLine errors.length warnings]

/-- The lines of a compilation that stops before expansion: the lexer's errors so far, the
stopping errors, and the errors kept back. -/
def stopped (notes : List Note) (stopping : List String) : List String :=
  failure (notes.filterMap Note.shownNow ++ stopping ++ notes.filterMap Note.shownLast)
    (notes.filter Note.isWarning).length

/-- Splits the tokens after an opening parenthesis at its closing one: the tokens inside and
those after it. -/
def splitGroup : Nat → List Token → List Token → List Token × List Token
  | _, inside, [] => (inside.reverse, [])
  | depth, inside, t :: rest =>
    match t.kind with
    | .opening _ => splitGroup (depth + 1) (t :: inside) rest
    | .closing _ => if depth = 0 then (inside.reverse, rest) else splitGroup (depth - 1) (t :: inside) rest
    | _ => splitGroup depth (t :: inside) rest

/-- The parse error of an attribute that goes on after its parentheses, if it does. -/
def attributeEnd : List Token → Option String
  | t :: _ =>
    if t.kind = .closing .bracket then none
    else some ("error: expected \x60]\x60, found \x60" ++ t.text ++ "\x60")
  | [] => some "error: expected \x60]\x60, found \x60<eof>\x60"

/-- What the attribute makes of its argument's tokens: no tokens name the point after its
function; exactly one sound text literal names it; anything else is refused. A literal with a
suffix is refused once the expanded function is parsed. -/
def attributeVerdict : List Token → Except String (Option String)
  | [] => .ok none
  | t :: rest =>
    match t.kind with
    | .text (some v) suffix =>
      if !rest.isEmpty then .error "error: unexpected token"
      else if suffix ≠ "" then .error "error: suffixes on string literals are invalid"
      else .ok (some v)
    | _ => .error "error: expected string literal"

/-- The outcome of expanding the attribute once its argument has lexed and paired: the point's
name, or the error lines. -/
def expand (notes : List Note) (tokens : List Token) : Except (List String) (Option String) :=
  let (inside, after) := splitGroup 0 [] tokens
  match attributeEnd after with
  | some line => .error (stopped notes [line])
  | none =>
    let verdict := attributeVerdict inside
    let errors := notes.filterMap Note.shownNow ++
      (match verdict with
       | .error line => [line]
       | .ok _ => []) ++
      (notes.filterMap Note.emojiName).eraseDups.map
        (fun name => "error: identifiers cannot contain emoji: \x60" ++ name ++ "\x60") ++
      notes.filterMap Note.lintLine ++ notes.filterMap Note.shownLast
    let warnings := (notes.filter Note.isWarning).length +
      (notes.filterMap Note.foreignName).eraseDups.foldl (fun n name => n + identifierWarnings name) 0
    match verdict with
    | .ok name => if errors.isEmpty then .ok name else .error (failure errors warnings)
    | .error _ => .error (failure errors warnings)

/-- The outcome of compiling an attribute whose argument should be one string literal: the
point's name, `none` when the argument holds no tokens, or the compiler's error lines. -/
def compileArgument (strays : Nat) (arg : String) : Except (List String) (Option String) :=
  let lexed := lexText ((arg.replace "\r\n" "\n").toList ++ programAfter)
  let tokens := lexed.tokens.map (·.1)
  let trees := readTokenTrees openAtArgument tokens
  match trees.ending with
  | .unexpected _ => .error (stopped ((lexed.tokens.take trees.taken).flatMap (·.2)) trees.errors)
  | _ =>
    let notes := lexed.tokens.flatMap (·.2) ++ lexed.trailing
    match lexed.ending with
    | .runsOn =>
      .error (stopped notes (List.replicate strays "error: unknown start of token: \\" ++
        ["error[E0765]: unterminated double quote string"]))
    | .fatal line => .error (stopped notes [line])
    | .complete =>
      if trees.errors.isEmpty then expand notes tokens else .error (stopped notes trees.errors)

end CausalProfiler.Compiler
