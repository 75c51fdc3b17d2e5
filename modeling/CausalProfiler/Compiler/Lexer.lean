import CausalProfiler.Compiler.Escape
import CausalProfiler.Compiler.CharClass
/-!
The compiler's lexer, as far as it shapes what compiling an attribute argument reports:

* blanks and plain comments make no token; doc comments are tokens; a block comment nests and
  one that is not closed stops compilation;
* identifiers, raw identifiers (`r#name`, which may not name `_`, `self`, `Self`, `super` or
  `crate`), and names right before a quote, apostrophe or `#`, which are prefixes no literal
  has and are refused;
* an identifier that holds an emoji is kept as an identifier and reported once expansion is
  done;
* literals: quoted, raw, character and byte literals, and numbers, each with its own faults,
  and with a suffix, an identifier right after it, of which a lone `_` is refused;
* lifetimes, of which one starting with a digit is refused at the very end;
* punctuation and delimiters;
* any other character is reported as starting no token; one the lexer knows to look like ASCII
  punctuation stands for that punctuation, and repeats of a reported character right after it
  are passed over silently, as are no-break spaces once one has been reported.

A quoted literal that no quote closes, or a raw one without hashes, runs on into the program
text after the argument.
-/
namespace CausalProfiler.Compiler

open Text

/-- The three kinds of delimiter. -/
inductive Delimiter where
  | paren
  | bracket
  | brace
deriving Repr, DecidableEq

/-- A closing delimiter as messages show it. -/
def Delimiter.closer : Delimiter → String
  | .paren => ")"
  | .bracket => "]"
  | .brace => "\x7d"

/-- What a token is, as far as the checks here ask. -/
inductive TokenKind where
  /-- A text literal: its value when its content is sound, and its suffix. -/
  | text (value : Option String) (suffix : String)
  /-- Any other literal. -/
  | literal
  | ident
  | lifetime
  | punct
  | docComment
  | opening (d : Delimiter)
  | closing (d : Delimiter)
deriving Repr, DecidableEq

/-- A token and its text. -/
structure Token where
  kind : TokenKind
  text : String
deriving Repr, DecidableEq

/-- What the lexer reports besides tokens, by when the compiler shows it. -/
inductive Note where
  /-- An error shown at once. -/
  | error (line : String)
  /-- A warning, which only the final count shows. -/
  | warning
  /-- An error kept back and shown last. -/
  | stashed (line : String)
  /-- An identifier that holds an emoji, reported once expansion is done. -/
  | emojiIdentifier (name : String)
  /-- An identifier past ASCII, which the lints on identifiers look at. -/
  | foreignIdentifier (name : String)
  /-- An error of a lint, shown after expansion. -/
  | lint (line : String)
deriving Repr, DecidableEq

/-- What the lexer remembers from one token to the next. -/
structure LexState where
  /-- How many unknown characters to pass over silently: repeats of one just reported. -/
  swallow : Nat := 0
  /-- Whether a no-break space has been reported; later ones count as blanks. -/
  spaceReported : Bool := false
deriving Repr, DecidableEq

/-- What the lexer makes of the text at a token's start. -/
inductive Lexeme where
  /-- A token, or none for text that makes none, the notes on the way, and the text after it. -/
  | next (token : Option Token) (notes : List Note) (rest : List Char)
  /-- A quoted literal that no quote closes within the program text, with its notes. -/
  | runsOn (notes : List Note)
  /-- An error that stops compilation at once, after the notes before it. -/
  | fatal (notes : List Note) (line : String)
deriving Repr, DecidableEq

def unterminatedRawLine : String := "error[E0748]: unterminated raw string"

def tooManyHashesLine (n : Nat) : String :=
  "error: too many \x60#\x60 symbols: raw strings may be delimited by up to 255 \x60#\x60 " ++
    "symbols, but found " ++ toString n

def invalidStarterLine (c : Char) : String :=
  "error: found invalid character; only \x60#\x60 is allowed in raw string delimitation: " ++
    shownChar c

/-- The lint error of text with characters that change the flow of text, in a place. -/
def flowLint (place : String) (cs : List Char) : List Note :=
  if cs.any changesTextFlow then
    [.lint ("error: unicode codepoint changing visible direction of text present in " ++ place)]
  else []

/-- The note an identifier leaves for the lints: one when it is past ASCII. -/
def identifierNotes (name : String) : List Note :=
  if name.toList.all (fun c : Char => c.toNat ≤ 0x7f) then [] else [.foreignIdentifier name]

/-- The names a raw identifier or lifetime cannot take. -/
def reservedRawNames : List String := ["_", "self", "Self", "super", "crate"]

/-- Splits a quoted literal's text after its opening quote at the closing quote: the content and
what follows, or none when no quote closes it. Only an escaped backslash or quote is passed over
as a pair. -/
def quotedEnd (acc : List Char) : List Char → Option (List Char × List Char)
  | [] => none
  | '"' :: rest => some (acc.reverse, rest)
  | '\\' :: '\\' :: rest => quotedEnd ('\\' :: '\\' :: acc) rest
  | '\\' :: '"' :: rest => quotedEnd ('"' :: '\\' :: acc) rest
  | c :: rest => quotedEnd (c :: acc) rest

/-- Splits a raw literal's text with `n` hashes after its opening quote at the first quote
followed by `n` hashes: the content and what follows, or none. -/
def rawEnd (n : Nat) (acc : List Char) : List Char → Option (List Char × List Char)
  | [] => none
  | '"' :: rest =>
    if (rest.take n).length = n ∧ (rest.take n).all (· = '#') then some (acc.reverse, rest.drop n)
    else rawEnd n ('"' :: acc) rest
  | c :: rest => rawEnd n (c :: acc) rest

/-- Splits a character literal's text after its opening apostrophe at the closing one: the
content and what follows. None when it stops first at a comment, at a line end with no
apostrophe right after, or at the text's end. -/
def singleEnd (acc : List Char) : List Char → Option (List Char × List Char)
  | [] => none
  | '\'' :: rest => some (acc.reverse, rest)
  | '/' :: _ => none
  | '\n' :: rest =>
    match rest with
    | '\'' :: _ => singleEnd ('\n' :: acc) rest
    | _ => none
  | '\\' :: c :: rest => singleEnd (c :: '\\' :: acc) rest
  | c :: rest => singleEnd (c :: acc) rest

/-- A literal's suffix, an identifier right after it, and the text after that. -/
def splitSuffix : List Char → List Char × List Char
  | [] => ([], [])
  | c :: rest =>
    if isIdStart c then (c :: rest.takeWhile isIdContinue, rest.dropWhile isIdContinue)
    else ([], c :: rest)

/-- A suffix as the literal keeps it, with its notes: a lone `_` is refused and dropped. -/
def settleSuffix (suffix : List Char) : String × List Note :=
  if suffix = ['_'] then ("", [.error "error: underscore literal suffix is not allowed"])
  else (String.ofList suffix, [])

/-- The error lines of a literal's faults. -/
def faultNotes (k : QuoteKind) (faults : List EscapeFault) : List Note :=
  faults.map fun f => .error (f.message k)

/-- The notes of a quoted literal's content: its faults and its warnings. -/
def contentNotes (k : QuoteKind) (u : Unescaped) : List Note :=
  faultNotes k u.faults ++ List.replicate u.warnings .warning

/-- A literal token: a text literal keeps its value when it is sound. -/
def literalKind (k : QuoteKind) (value : Option String) (suffix : String) : TokenKind :=
  if k = .text then .text value suffix else .literal

/-- Lexes a quoted literal of a kind after its opening quote; `opening` is its text so far. -/
def quotedLiteral (k : QuoteKind) (opening : String) (cs : List Char) : Lexeme :=
  match quotedEnd [] cs with
  | none => .runsOn (contentNotes k (unescape k cs))
  | some (content, rest) =>
    let u := unescape k content
    let (suffix, after) := splitSuffix rest
    let (suffixText, suffixNotes) := settleSuffix suffix
    let sound := u.faults.isEmpty
    let value := if sound then some (String.ofList (u.codes.map Char.ofNat)) else none
    .next (some ⟨literalKind k value suffixText, opening ++ String.ofList content ++ "\"" ++ suffixText⟩)
      (contentNotes k u ++ suffixNotes ++ (if sound then flowLint "literal" content else [])) after

/-- Lexes a raw literal of a kind from its hashes on: a quote after them, the content, and a
quote with as many hashes. Without hashes an unclosed one runs on; with them it is fatal, and so
are too many hashes or another character in place of the quote. -/
def rawLiteral (k : QuoteKind) (opening : String) (cs : List Char) : Lexeme :=
  let n := (cs.takeWhile (· = '#')).length
  match cs.drop n with
  | '"' :: body =>
    match rawEnd n [] body with
    | none => if n = 0 then .runsOn (faultNotes k (rawFaults k body)) else .fatal [] unterminatedRawLine
    | some (content, rest) =>
      if 255 < n then .fatal [] (tooManyHashesLine n)
      else
        let faults := rawFaults k content
        let (suffix, after) := splitSuffix rest
        let (suffixText, suffixNotes) := settleSuffix suffix
        let sound := faults.isEmpty
        let value := if sound then some (String.ofList content) else none
        let hashes := String.ofList (List.replicate n '#')
        .next (some ⟨literalKind k value suffixText,
            opening ++ hashes ++ "\"" ++ String.ofList content ++ "\"" ++ hashes ++ suffixText⟩)
          (faultNotes k faults ++ suffixNotes ++ (if sound then flowLint "literal" content else []))
          after
  | c :: _ => .fatal [] (invalidStarterLine c)
  | [] => .fatal [] (invalidStarterLine '\x00')

/-- Lexes a character or byte literal after its opening apostrophe. -/
def singleLiteral (k : QuoteKind) (opening : String) (cs : List Char) : Lexeme :=
  let closed := match cs with
    | c :: '\'' :: rest => if c = '\\' then singleEnd [] cs else some ([c], rest)
    | _ => singleEnd [] cs
  match closed with
  | none =>
    .fatal [] (if k = .byte then "error[E0763]: unterminated byte constant"
      else "error[E0762]: unterminated character literal")
  | some (content, rest) =>
    let fault := singleFault k content
    let (suffix, after) := splitSuffix rest
    let (suffixText, suffixNotes) := settleSuffix suffix
    .next (some ⟨.literal, opening ++ String.ofList content ++ "'" ++ suffixText⟩)
      (faultNotes k fault.toList ++ suffixNotes ++
        (if fault.isNone then flowLint "literal" content else [])) after

/-- The token a look-alike stands for: blanks, quotes and backslashes make none. -/
def lookAlikeToken (t : String) : Option Token :=
  if t = " " || t = "'" || t = "\"" || t = "\\" then none
  else if t = "_" then some ⟨.ident, t⟩
  else if t = "(" then some ⟨.opening .paren, t⟩
  else if t = ")" then some ⟨.closing .paren, t⟩
  else if t = "[" then some ⟨.opening .bracket, t⟩
  else if t = "]" then some ⟨.closing .bracket, t⟩
  else if t = "\x7b" then some ⟨.opening .brace, t⟩
  else if t = "\x7d" then some ⟨.closing .brace, t⟩
  else some ⟨.punct, t⟩

/-- Lexes a character that starts no token. It is reported unless it repeats one just reported
or is a no-break space after one was; a look-alike of ASCII punctuation stands for it. -/
def unknownChar (st : LexState) (c : Char) (rest : List Char) : Lexeme × LexState :=
  if 0 < st.swallow then (.next none [] rest, { st with swallow := st.swallow - 1 })
  else if c.toNat = 0xA0 && st.spaceReported then (.next none [] rest, st)
  else
    (.next ((lookAlike? c).bind lookAlikeToken) [.error ("error: unknown start of token: " ++ shownChar c)] rest,
      { swallow := (rest.takeWhile (· = c)).length, spaceReported := st.spaceReported || c.toNat = 0xA0 })

/-- Whether a character goes on in an identifier that holds an emoji. -/
def continuesEmojiName (c : Char) : Bool := isIdContinue c || isEmoji c || c.toNat = 0x200D

/-- Lexes an identifier that holds an emoji, after the characters taken so far. A lone
character that looks like ASCII punctuation is an unknown character instead. -/
def emojiName (st : LexState) (taken rest : List Char) : Lexeme × LexState :=
  let name := taken ++ rest.takeWhile continuesEmojiName
  let after := rest.dropWhile continuesEmojiName
  match name with
  | [c] =>
    if (lookAlike? c).isSome then unknownChar st c after
    else (.next (some ⟨.ident, c.toString⟩) [.emojiIdentifier c.toString] after, st)
  | _ =>
    let text := String.ofList name
    (.next (some ⟨.ident, text⟩) [.emojiIdentifier text] after, st)

/-- Lexes an identifier from its first character: one right before a quote, apostrophe or `#`
is a prefix no literal has, and one that runs into an emoji takes the emoji in. -/
def nameToken (st : LexState) (c : Char) (rest : List Char) : Lexeme × LexState :=
  let name := c :: rest.takeWhile isIdContinue
  let after := rest.dropWhile isIdContinue
  let text := String.ofList name
  match after with
  | d :: _ =>
    if d = '#' || d = '"' || d = '\'' then
      (.next (some ⟨.ident, text⟩)
        ([.error ("error: prefix \x60" ++ text ++ "\x60 is unknown")] ++ identifierNotes text) after, st)
    else if isEmoji d then emojiName st name after
    else (.next (some ⟨.ident, text⟩) (identifierNotes text) after, st)
  | [] => (.next (some ⟨.ident, text⟩) (identifierNotes text) after, st)

/-- Lexes a raw identifier after its `r#`. -/
def rawIdentifier (c : Char) (rest : List Char) : Lexeme :=
  let text := String.ofList (c :: rest.takeWhile isIdContinue)
  .next (some ⟨.ident, "r#" ++ text⟩)
    ((if reservedRawNames.contains text then
        [.error ("error: \x60" ++ text ++ "\x60 cannot be a raw identifier")] else []) ++
      identifierNotes text)
    (rest.dropWhile isIdContinue)

/-- Lexes what follows an apostrophe: a character literal, a lifetime, a raw lifetime, or
several characters closed by an apostrophe, a character literal that takes no suffix. -/
def apostrophe (cs : List Char) : Lexeme :=
  let canBeLifetime := match cs with
    | a :: b :: _ => b ≠ '\'' && (isIdStart a || a.isDigit)
    | [a] => isIdStart a || a.isDigit
    | [] => false
  if !canBeLifetime then singleLiteral .char "'" cs
  else match cs with
    | 'r' :: '#' :: d :: more =>
      if isIdStart d then rawLifetime d more else lifetimeOrChars 'r' ('#' :: d :: more)
    | a :: more => lifetimeOrChars a more
    | [] => singleLiteral .char "'" cs
where
  /-- A raw lifetime after its `'r#`; a quote right after it makes a character literal of
  several characters. -/
  rawLifetime (d : Char) (more : List Char) : Lexeme :=
    let name := String.ofList (d :: more.takeWhile isIdContinue)
    let after := more.dropWhile isIdContinue
    .next (some ⟨.lifetime, "'r#" ++ name⟩)
      ((if after.head? = some '\'' then
          [.error "error: character literal may only contain one codepoint"] else []) ++
        (if reservedRawNames.contains name then
          [.error ("error: \x60" ++ name ++ "\x60 cannot be a raw lifetime")] else []))
      after
  /-- A lifetime from its first character, or several characters closed by an apostrophe; a
  lifetime right before `#` is a prefix no literal has. -/
  lifetimeOrChars (a : Char) (more : List Char) : Lexeme :=
    let name := a :: more.takeWhile isIdContinue
    let after := more.dropWhile isIdContinue
    let text := String.ofList name
    let numbered : List Note :=
      if a.isDigit then [.stashed "error: lifetimes cannot start with a number"] else []
    match after with
    | '\'' :: rest =>
      let fault := singleFault .char name
      .next (some ⟨.literal, "'" ++ text ++ "'"⟩)
        (faultNotes .char fault.toList ++ (if fault.isNone then flowLint "literal" name else []))
        rest
    | '#' :: _ =>
      if a.isDigit then .next (some ⟨.lifetime, "'" ++ text⟩) numbered after
      else .next (some ⟨.lifetime, "'" ++ text⟩) [.error ("error: prefix \x60'" ++ text ++ "\x60 is unknown")] after
    | _ => .next (some ⟨.lifetime, "'" ++ text⟩) numbered after

/-- The bases a number may be written in. -/
inductive Base where
  | binary
  | octal
  | decimal
  | hexadecimal
deriving Repr, DecidableEq

/-- The digits of a base: the two lower bases by value, the others by what the lexer takes. -/
def Base.allows : Base → Char → Bool
  | .binary, c => c = '0' || c = '1'
  | .octal, c => '0' ≤ c && c ≤ '7'
  | .decimal, c => c.isDigit
  | .hexadecimal, c => c.isDigit || ('a' ≤ c && c ≤ 'f') || ('A' ≤ c && c ≤ 'F')

def Base.name : Base → String
  | .binary => "binary"
  | .octal => "octal"
  | .decimal => "decimal"
  | .hexadecimal => "hexadecimal"

/-- What the lexer reads of a number: its base, whether it is a float, whether digits are
missing after the base or in the exponent, its text without the suffix, and the rest. -/
structure NumberRead where
  base : Base
  float : Bool
  emptyInt : Bool
  emptyExponent : Bool
  text : List Char
  rest : List Char
deriving Repr, DecidableEq

/-- The run of digits and underscores at the start of a text: whether it holds a digit, and the
run. Hexadecimal runs take the letters `a` to `f` too. -/
def digitRun (hex : Bool) (cs : List Char) : Bool × List Char :=
  let isDigit := fun c => c.isDigit || (hex && Base.hexadecimal.allows c)
  let run := cs.takeWhile fun c => c = '_' || isDigit c
  (run.any isDigit, run)

/-- Reads an exponent after its `e`: an optional sign and digits. -/
def readExponent (base : Base) (taken : List Char) (cs : List Char) : NumberRead :=
  let (sign, afterSign) := match cs with
    | '+' :: more => (['+'], more)
    | '-' :: more => (['-'], more)
    | _ => ([], cs)
  let (hasDigits, run) := digitRun false afterSign
  ⟨base, true, false, !hasDigits, taken ++ sign ++ run, afterSign.drop run.length⟩

/-- Reads what may follow a number's digits: a fraction, an exponent, or nothing. A dot makes a
float only when neither a second dot nor an identifier follows it. -/
def readFraction (base : Base) (taken : List Char) (cs : List Char) : NumberRead :=
  match cs with
  | '.' :: more =>
    let second := more.head?
    if second = some '.' || (second.map isIdStart).getD false then ⟨base, false, false, false, taken, cs⟩
    else
      match more with
      | d :: _ =>
        if d.isDigit then
          let (_, run) := digitRun false more
          let after := more.drop run.length
          match after with
          | e :: rest =>
            if e = 'e' || e = 'E' then readExponent base (taken ++ ['.'] ++ run ++ [e]) rest
            else ⟨base, true, false, false, taken ++ ['.'] ++ run, after⟩
          | [] => ⟨base, true, false, false, taken ++ ['.'] ++ run, after⟩
        else ⟨base, true, false, false, taken ++ ['.'], more⟩
      | [] => ⟨base, true, false, false, taken ++ ['.'], more⟩
  | e :: rest =>
    if e = 'e' || e = 'E' then readExponent base (taken ++ [e]) rest
    else ⟨base, false, false, false, taken, cs⟩
  | [] => ⟨base, false, false, false, taken, cs⟩

/-- Reads a number after a base prefix: without digits it stops there. -/
def readBased (base : Base) (taken : List Char) (cs : List Char) : NumberRead :=
  let (hasDigits, run) := digitRun (base = .hexadecimal) cs
  if hasDigits then readFraction base (taken ++ run) (cs.drop run.length)
  else ⟨base, false, true, false, taken ++ run, cs.drop run.length⟩

/-- Reads a number from its first digit. -/
def readNumber (first : Char) (rest : List Char) : NumberRead :=
  if first = '0' then
    match rest with
    | 'b' :: more => readBased .binary ['0', 'b'] more
    | 'o' :: more => readBased .octal ['0', 'o'] more
    | 'x' :: more => readBased .hexadecimal ['0', 'x'] more
    | _ =>
      let (_, run) := digitRun false rest
      readFraction .decimal (first :: run) (rest.drop run.length)
  else
    let (_, run) := digitRun false rest
    readFraction .decimal (first :: run) (rest.drop run.length)

/-- The errors of a number: missing digits, digits its base does not have, a missing exponent,
and a float in a base other than ten. -/
def NumberRead.errors (r : NumberRead) : List Note :=
  if r.float then
    (if r.emptyExponent then [.error "error: expected at least one digit in exponent"] else []) ++
      (if r.base = .decimal then [] else [.error ("error: " ++ r.base.name ++ " float literal is not supported")])
  else if r.emptyInt then [.error "error[E0768]: no valid digits found for number"]
  else if r.base = .binary || r.base = .octal then
    ((r.text.drop 2).filter fun c => c ≠ '_' && !r.base.allows c).map fun _ =>
      .error ("error: invalid digit for a base " ++ (if r.base = .binary then "2" else "8") ++ " literal")
  else []

/-- Lexes a number from its first digit, with its suffix. -/
def numberToken (first : Char) (rest : List Char) : Lexeme :=
  let r := readNumber first rest
  let (suffix, after) := splitSuffix r.rest
  let (suffixText, suffixNotes) := settleSuffix suffix
  .next (some ⟨.literal, String.ofList r.text ++ suffixText⟩) (r.errors ++ suffixNotes) after

/-- Whether a text starts with a doc comment, which is a token, not a blank. -/
def startsDoc : List Char → Bool
  | '/' :: '/' :: '/' :: c :: _ => c != '/'
  | ['/', '/', '/'] => true
  | '/' :: '/' :: '!' :: _ => true
  | '/' :: '*' :: '*' :: c :: _ => c != '*' && c != '/'
  | '/' :: '*' :: '!' :: _ => true
  | _ => false

/-- Splits a block comment's body after its opening at its close, counting nested comments:
the body and what follows, or none when it is not closed. -/
def blockEnd (depth : Nat) (acc : List Char) : List Char → Option (List Char × List Char)
  | [] => none
  | '*' :: '/' :: rest =>
    if depth = 0 then some (acc.reverse, rest) else blockEnd (depth - 1) ('/' :: '*' :: acc) rest
  | '/' :: '*' :: rest => blockEnd (depth + 1) ('*' :: '/' :: acc) rest
  | c :: rest => blockEnd depth (c :: acc) rest

/-- The one-character punctuation tokens. -/
def punctChars : List Char :=
  [';', ',', '.', '@', '#', '~', '?', ':', '$', '=', '!', '<', '>', '-', '&', '|', '+', '*', '^',
   '%', '/']

/-- The delimiter token a character is, if it is one. -/
def delimiterToken : Char → Option TokenKind
  | '(' => some (.opening .paren)
  | ')' => some (.closing .paren)
  | '[' => some (.opening .bracket)
  | ']' => some (.closing .bracket)
  | '{' => some (.opening .brace)
  | '}' => some (.closing .brace)
  | _ => none

/-- Lexes a comment from its two opening characters. -/
def comment (cs : List Char) : Lexeme :=
  let doc := startsDoc cs
  let place := if doc then "doc comment" else "comment"
  match cs with
  | '/' :: '/' :: rest =>
    let body := rest.takeWhile (· ≠ '\n')
    .next (if doc then some ⟨.docComment, "//" ++ String.ofList body⟩ else none)
      (flowLint place body) (rest.dropWhile (· ≠ '\n'))
  | '/' :: '*' :: rest =>
    match blockEnd 0 [] rest with
    | some (body, after) =>
      .next (if doc then some ⟨.docComment, "/*" ++ String.ofList body ++ "*/"⟩ else none)
        (flowLint place body) after
    | none =>
      .fatal [] (if doc then "error[E0758]: unterminated block doc-comment"
        else "error[E0758]: unterminated block comment")
  | _ => .next none [] cs

/-- Lexes the token at the start of a text, or the blanks or comment there. -/
def lexOne (st : LexState) : List Char → Lexeme × LexState
  | [] => (.next none [] [], st)
  | c :: rest =>
    if c = '/' && (rest.head? = some '/' || rest.head? = some '*') then (comment (c :: rest), st)
    else if isLexerBlank c then (.next none [] (rest.dropWhile isLexerBlank), st)
    else if c = 'r' then
      match rest with
      | '#' :: d :: _ =>
        if isIdStart d then (rawIdentifier d (rest.drop 2), st) else (rawLiteral .text "r" rest, st)
      | '#' :: [] => (rawLiteral .text "r" rest, st)
      | '"' :: _ => (rawLiteral .text "r" rest, st)
      | _ => nameToken st c rest
    else if c = 'b' then
      match rest with
      | '\'' :: more => (singleLiteral .byte "b'" more, st)
      | '"' :: more => (quotedLiteral .bytes "b\"" more, st)
      | 'r' :: '"' :: more => (rawLiteral .bytes "br" ('"' :: more), st)
      | 'r' :: '#' :: more => (rawLiteral .bytes "br" ('#' :: more), st)
      | _ => nameToken st c rest
    else if c = 'c' then
      match rest with
      | '"' :: more => (quotedLiteral .cText "c\"" more, st)
      | 'r' :: '"' :: more => (rawLiteral .cText "cr" ('"' :: more), st)
      | 'r' :: '#' :: more => (rawLiteral .cText "cr" ('#' :: more), st)
      | _ => nameToken st c rest
    else if isIdStart c then nameToken st c rest
    else if c.isDigit then (numberToken c rest, st)
    else if c = '\'' then (apostrophe rest, st)
    else if c = '"' then (quotedLiteral .text "\"" rest, st)
    else match delimiterToken c with
      | some k => (.next (some ⟨k, c.toString⟩) [] rest, st)
      | none =>
        if punctChars.contains c then (.next (some ⟨.punct, c.toString⟩) [] rest, st)
        else if isEmoji c then emojiName st [c] rest
        else unknownChar st c rest

/-- How lexing a text ends: at its end, with a literal running on into the program after it, or
with an error that stops compilation. -/
inductive Ending where
  | complete
  | runsOn
  | fatal (line : String)
deriving Repr, DecidableEq

/-- A text's tokens, each with the notes the lexer made on the way to it and with it; the notes
after the last token; and how lexing ended. -/
structure Lexed where
  tokens : List (Token × List Note)
  trailing : List Note
  ending : Ending

/-- Lexes at most `fuel` steps of a text, after the tokens found so far and the notes since the
last of them. -/
def lexFrom : Nat → LexState → List Note → List (Token × List Note) → List Char → Lexed
  | 0, _, pending, tokens, _ => ⟨tokens.reverse, pending, .complete⟩
  | fuel + 1, st, pending, tokens, cs =>
    match cs with
    | [] => ⟨tokens.reverse, pending, .complete⟩
    | _ :: _ =>
      match lexOne st cs with
      | (.next (some t) notes rest, st) => lexFrom fuel st [] ((t, pending ++ notes) :: tokens) rest
      | (.next none notes rest, st) => lexFrom fuel st (pending ++ notes) tokens rest
      | (.runsOn notes, _) => ⟨tokens.reverse, pending ++ notes, .runsOn⟩
      | (.fatal notes line, _) => ⟨tokens.reverse, pending ++ notes, .fatal line⟩

/-- Lexes a text; every step takes at least one character, so its length bounds the steps. -/
def lexText (cs : List Char) : Lexed := lexFrom (cs.length + 1) {} [] [] cs

end CausalProfiler.Compiler
