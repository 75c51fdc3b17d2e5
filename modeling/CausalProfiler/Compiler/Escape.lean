import CausalProfiler.Number.Read
import CausalProfiler.Text.Quoted
/-!
The content of the compiler's literals. A quoted literal's escapes are read one by one; each
fault is reported with its own message, and reading goes on after the characters the fault took.
A backslash before a line break skips the blanks after it, with a warning when they span more
lines or stop at another kind of blank. Raw literals have no escapes, but refuse carriage returns
and, by their kind, characters past ASCII or the zero character. A character literal holds
exactly one character or escape.
-/
namespace CausalProfiler.Compiler

open Text

/-- A character as the compiler shows it in a message: printable ASCII as it is, tabs, returns
and line feeds as their escapes, and the rest by code point. -/
def shownChar (c : Char) : String :=
  if 0x20 ≤ c.toNat ∧ c.toNat ≤ 0x7e then c.toString
  else if c = '\t' then "\\t"
  else if c = '\r' then "\\r"
  else if c = '\n' then "\\n"
  else "\\u\x7b" ++ String.ofList (hexDigits c.toNat) ++ "\x7d"

/-- A character shown between backticks. -/
def ticked (c : Char) : String := "\x60" ++ shownChar c ++ "\x60"

/-- The kinds of quoted literal; they differ in the escapes and characters they allow. -/
inductive QuoteKind where
  | text
  | bytes
  | cText
  | char
  | byte
deriving Repr, DecidableEq

/-- Whether a kind holds bytes rather than characters. -/
def QuoteKind.isByte (k : QuoteKind) : Bool := k = .bytes || k = .byte

/-- Whether a kind is a single character between apostrophes. -/
def QuoteKind.isSingle (k : QuoteKind) : Bool := k = .char || k = .byte

/-- A fault the lexer finds in a literal's content. -/
inductive EscapeFault where
  | unknownEscape (c : Char)
  | hexTooShort
  | hexInvalid (c : Char)
  | hexOutOfRange
  | noBrace
  | leadingUnderscore
  | emptyUnicode
  | unicodeInvalid (c : Char)
  | unclosedUnicode
  | overlongUnicode
  | unicodeInBytes
  | unicodeOutOfRange
  | bareReturn
  | bareReturnRaw
  | nonAscii (raw : Bool)
  | nulInC
  | mustEscape (c : Char)
  | emptyChar
  | manyChars
deriving Repr, DecidableEq

/-- The error line the compiler prints for a fault in a literal of a kind. -/
def EscapeFault.message (k : QuoteKind) : EscapeFault → String
  | .unknownEscape c =>
    (if k.isByte then "error: unknown byte escape: " else "error: unknown character escape: ") ++
      ticked c
  | .hexTooShort => "error: numeric character escape is too short"
  | .hexInvalid c => "error: invalid character in numeric character escape: " ++ ticked c
  | .hexOutOfRange => "error: out of range hex escape"
  | .noBrace => "error: incorrect unicode escape sequence"
  | .leadingUnderscore => "error: invalid start of unicode escape: \x60_\x60"
  | .emptyUnicode => "error: empty unicode escape"
  | .unicodeInvalid c => "error: invalid character in unicode escape: " ++ ticked c
  | .unclosedUnicode => "error: unterminated unicode escape"
  | .overlongUnicode => "error: overlong unicode escape"
  | .unicodeInBytes => "error: unicode escape in byte string"
  | .unicodeOutOfRange => "error: invalid unicode character escape"
  | .bareReturn =>
    if k.isSingle then "error: character constant must be escaped: \x60\\r\x60"
    else "error: bare CR not allowed in string, use \x60\\r\x60 instead"
  | .bareReturnRaw => "error: bare CR not allowed in raw string"
  | .nonAscii raw =>
    "error: non-ASCII character in " ++
      (if k = .byte then "byte literal" else if raw then "raw byte string literal"
       else "byte string literal")
  | .nulInC => "error: null characters in C string literals are not supported"
  | .mustEscape c =>
    "error: " ++ (if k = .byte then "byte" else "character") ++ " constant must be escaped: " ++
      ticked c
  | .emptyChar => "error: empty character literal"
  | .manyChars => "error: character literal may only contain one codepoint"

/-- What reading one escape gives: a code (a character, or a byte in bytes and C text) or a
fault, and how many characters after the escape's letter it took. -/
structure EscapeRead where
  result : Except EscapeFault Nat
  used : Nat

/-- Reads the two digits of a hex escape. Text and characters allow only ASCII values. -/
def hexEscape (k : QuoteKind) : List Char → EscapeRead
  | [] => ⟨.error .hexTooShort, 0⟩
  | h :: rest =>
    if !Number.isHexDigit h then ⟨.error (.hexInvalid h), 1⟩
    else match rest with
      | [] => ⟨.error .hexTooShort, 1⟩
      | l :: _ =>
        if !Number.isHexDigit l then ⟨.error (.hexInvalid l), 2⟩
        else
          let value := Number.hexValue [h, l]
          if (k = .text || k = .char) && 0x7f < value then ⟨.error .hexOutOfRange, 2⟩
          else ⟨.ok value, 2⟩

/-- Reads the digits of a unicode escape after the first, up to its closing brace: `digits`
digits seen so far, of value `value`, with `used` characters taken. Underscores are passed over,
and digits past the sixth no longer count toward the value. A malformed escape is judged before
the kind is asked whether it allows one, and that before the value is checked. -/
def unicodeDigits (k : QuoteKind) (digits value used : Nat) : List Char → EscapeRead
  | [] => ⟨.error .unclosedUnicode, used⟩
  | '_' :: rest => unicodeDigits k digits value (used + 1) rest
  | '}' :: _ =>
    if 6 < digits then ⟨.error .overlongUnicode, used + 1⟩
    else if k.isByte then ⟨.error .unicodeInBytes, used + 1⟩
    else if value.isValidChar then ⟨.ok value, used + 1⟩
    else ⟨.error .unicodeOutOfRange, used + 1⟩
  | c :: rest =>
    if !Number.isHexDigit c then ⟨.error (.unicodeInvalid c), used + 1⟩
    else if 6 ≤ digits then unicodeDigits k (digits + 1) value (used + 1) rest
    else unicodeDigits k (digits + 1) (16 * value + Number.hexValue [c]) (used + 1) rest

/-- Reads a unicode escape after its `u`: a brace, hex digits with underscores after the first,
and a closing brace. Without the brace the one character in its place is taken. -/
def unicodeEscape (k : QuoteKind) : List Char → EscapeRead
  | [] => ⟨.error .noBrace, 0⟩
  | '{' :: rest =>
    match rest with
    | [] => ⟨.error .unclosedUnicode, 1⟩
    | '_' :: _ => ⟨.error .leadingUnderscore, 2⟩
    | '}' :: _ => ⟨.error .emptyUnicode, 2⟩
    | c :: more =>
      if Number.isHexDigit c then unicodeDigits k 1 (Number.hexValue [c]) 2 more
      else ⟨.error (.unicodeInvalid c), 2⟩
  | _ :: _ => ⟨.error .noBrace, 1⟩

/-- The character a one-letter escape stands for. -/
def simpleEscape : Char → Option Char
  | 'n' => some '\n'
  | 'r' => some '\r'
  | 't' => some '\t'
  | '\\' => some '\\'
  | '0' => some '\x00'
  | '\'' => some '\''
  | '"' => some '"'
  | _ => none

/-- Reads the escape after a backslash, from its letter `c` on. -/
def readEscape (k : QuoteKind) (c : Char) (rest : List Char) : EscapeRead :=
  match simpleEscape c with
  | some v => ⟨.ok v.toNat, 0⟩
  | none =>
    if c = 'x' then hexEscape k rest
    else if c = 'u' then unicodeEscape k rest
    else ⟨.error (.unknownEscape c), 0⟩

/-- A code read from an escape, refused in C text when it is zero. -/
def settleCode (k : QuoteKind) : Except EscapeFault Nat → Except EscapeFault Nat
  | .ok 0 => if k = .cText then .error .nulInC else .ok 0
  | r => r

/-- A character standing for itself in a literal: carriage returns are refused, in bytes so are
characters past ASCII, and in C text the zero character. -/
def plainCode (k : QuoteKind) (c : Char) : Except EscapeFault Nat :=
  if c = '\r' then .error .bareReturn
  else if k.isByte && 0x7f < c.toNat then .error (.nonAscii false)
  else settleCode k (.ok c.toNat)

/-- The blanks a line continuation in a quoted literal skips. -/
def isContinuationBlank (c : Char) : Bool := c = ' ' || c = '\t' || c = '\n' || c = '\r'

theorem length_dropWhile_le (p : Char → Bool) (l : List Char) : (l.dropWhile p).length ≤ l.length :=
  (List.dropWhile_suffix p).length_le

/-- Characters past the ASCII blanks that a line continuation does not skip, and warns about. -/
def isOtherWhitespace (c : Char) : Bool :=
  c = '\x0b' || c = '\x0c' || c.toNat = 0x85 || c.toNat = 0xA0 || c.toNat = 0x1680 ||
    (0x2000 ≤ c.toNat && c.toNat ≤ 0x200A) || c.toNat = 0x2028 || c.toNat = 0x2029 ||
    c.toNat = 0x202F || c.toNat = 0x205F || c.toNat = 0x3000

/-- The warnings of a line continuation whose skipped blanks are `skipped`, followed by `next`:
one when the blanks span more than one line, one when a blank that is not skipped follows. -/
def continuationWarnings (skipped next : List Char) : Nat :=
  (if skipped.contains '\n' then 1 else 0) +
    (match next with
     | c :: _ => if isOtherWhitespace c then 1 else 0
     | [] => 0)

/-- What a quoted literal's content stands for: its codes, the faults in it in order, and how
many warnings it gives. -/
structure Unescaped where
  codes : List Nat
  faults : List EscapeFault
  warnings : Nat

/-- Reads a quoted literal's content after the codes, faults and warnings found so far. A line
break after a backslash is skipped with the blanks after it; after a fault, reading goes on past
the characters it took. -/
def unescapeFrom (k : QuoteKind) (codes : List Nat) (faults : List EscapeFault) (warnings : Nat)
    (cs : List Char) : Unescaped :=
  match cs with
  | [] => ⟨codes.reverse, faults.reverse, warnings⟩
  | '\\' :: '\n' :: rest =>
    let skipped := rest.takeWhile isContinuationBlank
    let next := rest.dropWhile isContinuationBlank
    unescapeFrom k codes faults (warnings + continuationWarnings skipped next) next
  | '\\' :: c :: rest =>
    let read := readEscape k c rest
    match settleCode k read.result with
    | .ok v => unescapeFrom k (v :: codes) faults warnings (rest.drop read.used)
    | .error f => unescapeFrom k codes (f :: faults) warnings (rest.drop read.used)
  | c :: rest =>
    match plainCode k c with
    | .ok v => unescapeFrom k (v :: codes) faults warnings rest
    | .error f => unescapeFrom k codes (f :: faults) warnings rest
termination_by cs.length
decreasing_by
  all_goals simp_wf
  · have := length_dropWhile_le isContinuationBlank rest
    omega
  all_goals omega

/-- What a quoted literal's content stands for. -/
def unescape (k : QuoteKind) (cs : List Char) : Unescaped := unescapeFrom k [] [] 0 cs

/-- The faults in a raw literal's content: carriage returns, and in raw bytes characters past
ASCII, and in raw C text the zero character. -/
def rawFaults (k : QuoteKind) (cs : List Char) : List EscapeFault :=
  cs.filterMap fun c =>
    if c = '\r' then some .bareReturnRaw
    else if k.isByte && 0x7f < c.toNat then some (.nonAscii true)
    else if k = .cText && c.toNat = 0 then some .nulInC
    else none

/-- The fault of a character literal's content, if any: it holds exactly one character or
escape, and a line feed, tab or apostrophe must be escaped. -/
def singleFault (k : QuoteKind) : List Char → Option EscapeFault
  | [] => some .emptyChar
  | '\\' :: c :: rest =>
    let read := readEscape k c rest
    match read.result with
    | .error f => some f
    | .ok _ => if (rest.drop read.used).isEmpty then none else some .manyChars
  | c :: rest =>
    if c = '\n' || c = '\t' || c = '\'' then some (.mustEscape c)
    else match plainCode k c with
      | .error f => some f
      | .ok _ => if rest.isEmpty then none else some .manyChars

end CausalProfiler.Compiler
