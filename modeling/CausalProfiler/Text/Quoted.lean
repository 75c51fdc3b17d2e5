import CausalProfiler.Text.GraphemeExtend
/-!
Quoted text, as error messages show a refused value: the text between double quotes, with a
backslash before `"` and `\`, the escapes `\t`, `\r`, `\n` and `\0`, and `\u{hex}` for every
other character that does not print on its own or that extends the grapheme before it.
-/
namespace CausalProfiler.Text

/-- Lower-case hexadecimal digits of `n`, without leading zeros. -/
def hexDigits (n : Nat) : List Char := Nat.toDigits 16 n

/-- The quoted form of one character. -/
def quoteChar (c : Char) : List Char :=
  match c with
  | '\t' => ['\\', 't']
  | '\r' => ['\\', 'r']
  | '\n' => ['\\', 'n']
  | '\\' => ['\\', '\\']
  | '"' => ['\\', '"']
  | _ =>
    if c.toNat = 0 then ['\\', '0']
    else if extendsGrapheme c || !isPrintable c then ['\\', 'u', '\x7b'] ++ hexDigits c.toNat ++ ['\x7d']
    else [c]

/-- The text between double quotes, escaped character by character. -/
def quoted (s : String) : String :=
  String.ofList ('"' :: (s.toList.flatMap quoteChar) ++ ['"'])

end CausalProfiler.Text
