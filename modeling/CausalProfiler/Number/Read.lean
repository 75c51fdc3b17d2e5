import CausalProfiler.Number.Decimal
/-!
Reading numbers from text, by the rules of the standard readers: integers are an optional sign
and one or more ASCII digits, with values outside the type refused; doubles also take a
fraction, an exponent and the words `inf`, `infinity` and `nan` in any case, and are
rounded to the nearest double.
-/
namespace CausalProfiler.Number

/-- The value of a run of decimal digits. -/
def digitValue (ds : List Char) : Nat :=
  ds.foldl (fun n c => 10 * n + (c.toNat - '0'.toNat)) 0

/-- The value of a run of hexadecimal digits, either case. -/
def hexValue (ds : List Char) : Nat :=
  ds.foldl (fun n c => 16 * n + (if c.isDigit then c.toNat - '0'.toNat
    else c.toLower.toNat - 'a'.toNat + 10)) 0

def isHexDigit (c : Char) : Bool :=
  c.isDigit || ('a' ≤ c.toLower && c.toLower ≤ 'f')

/-- An unsigned integer: an optional `+` and one or more digits, at most `bound`. -/
def readNat? (bound : Nat) (s : String) : Option Nat :=
  let ds := match s.toList with
    | '+' :: rest => rest
    | cs => cs
  if !ds.isEmpty && ds.all Char.isDigit then
    let n := digitValue ds
    if n ≤ bound then some n else none
  else none

/-- A signed integer: an optional `+` or `-` and one or more digits, within `[low, high]`. -/
def readInt? (low high : Int) (s : String) : Option Int :=
  let (negative, ds) := match s.toList with
    | '+' :: rest => (false, rest)
    | '-' :: rest => (true, rest)
    | cs => (false, cs)
  if !ds.isEmpty && ds.all Char.isDigit then
    let n : Int := if negative then -(digitValue ds : Int) else digitValue ds
    if low ≤ n ∧ n ≤ high then some n else none
  else none

/-- A hexadecimal unsigned integer: an optional `+` and one or more hex digits, at most
`bound`. -/
def readHex? (bound : Nat) (s : String) : Option Nat :=
  let ds := match s.toList with
    | '+' :: rest => rest
    | cs => cs
  if !ds.isEmpty && ds.all isHexDigit then
    let n := hexValue ds
    if n ≤ bound then some n else none
  else none

/-- The largest value of a 64-bit word. -/
def wordMax : Nat := Nat.pow 2 64 - 1

/-- The double nearest to a natural below `2^64`. -/
def ofWordNat (n : Nat) : Float := n.toUInt64.toFloat

/-- The exponent part of a decimal: empty, or `e`/`E`, an optional sign and digits. -/
def readExponent? : List Char → Option Int
  | [] => some 0
  | c :: rest =>
    if c = 'e' ∨ c = 'E' then
      let (negative, ds) := match rest with
        | '+' :: ds => (false, ds)
        | '-' :: ds => (true, ds)
        | ds => (false, ds)
      if !ds.isEmpty && ds.all Char.isDigit then
        some (if negative then -(digitValue ds : Int) else digitValue ds)
      else none
    else none

/-- A decimal without sign: digits, an optional point with digits, and an exponent; at
least one digit before or after the point. -/
def readDecimal? (cs : List Char) : Option Decimal :=
  let whole := cs.takeWhile Char.isDigit
  let rest := cs.dropWhile Char.isDigit
  let (fraction, rest) := match rest with
    | '.' :: r => (r.takeWhile Char.isDigit, r.dropWhile Char.isDigit)
    | r => ([], r)
  if whole.isEmpty && fraction.isEmpty then none
  else (readExponent? rest).map fun x => ⟨digitValue (whole ++ fraction), x - fraction.length⟩

/-- A double: an optional sign, then `inf`, `infinity`, `nan` in any case, or a decimal
rounded to the nearest double. -/
def readFloat? (s : String) : Option Float :=
  let (negative, body) := match s.toList with
    | '+' :: rest => (false, rest)
    | '-' :: rest => (true, rest)
    | cs => (false, cs)
  let word := String.ofList (body.map Char.toLower)
  if word = "inf" ∨ word = "infinity" then some (Float.ofBits (infinityBits negative))
  else if word = "nan" then some (0.0 / 0.0)
  else (readDecimal? body).map (Decimal.toFloat negative)

/-- The nearest double to `10^k`. -/
def powerOfTen (k : Nat) : Float := Decimal.toFloat false ⟨1, k⟩

/-- Scales a double by a power of ten in steps the size of the largest finite power, each
step one rounded multiplication or division. Growing past the largest double is refused. -/
def scaleByTen (x : Float) (e : Int) (fuel : Nat) : Option Float :=
  match fuel with
  | 0 => some x
  | fuel + 1 =>
    if e.natAbs ≤ 308 then
      if 0 ≤ e then
        let y := x * powerOfTen e.toNat
        if y.isInf then none else some y
      else some (x / powerOfTen e.natAbs)
    else if x == 0.0 then some x
    else if 0 ≤ e then none
    else scaleByTen (x / powerOfTen 308) (e + 308) fuel

/-- The leading digits of `n` whose value fits a 64-bit word, and how many digits follow. -/
def wordPrefix (n : Nat) : Nat × Nat :=
  let step := fun ((value, dropped) : Nat × Nat) (c : Char) =>
    let next := 10 * value + (c.toNat - '0'.toNat)
    if dropped = 0 ∧ next ≤ wordMax then (next, 0) else (value, dropped + 1)
  (Nat.toDigits 10 n).foldl step (0, 0)

/-- A decimal read the quick way: the leading digits that fit a word become a double, rounded
once, and that double is scaled by the nearest double to the power of ten, rounded again;
later digits are dropped. Results beyond the largest double are refused. -/
def Decimal.toFloatQuick (negative : Bool) (d : Decimal) : Option Float :=
  let (significand, dropped) := wordPrefix d.digits
  let magnitude := scaleByTen (ofWordNat significand) (d.exponent + dropped) (d.exponent.natAbs / 308 + 2)
  magnitude.map fun x => if negative then -x else x

end CausalProfiler.Number
