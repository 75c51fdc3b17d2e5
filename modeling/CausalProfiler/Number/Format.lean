import CausalProfiler.Number.Decimal
/-!
Number text. A double is written either with its shortest digits, placed by a
`ShortestLayout`, or rounded to a fixed number of places. The layouts record the decisions
of each output; the digits themselves come from `Decimal`.
-/
namespace CausalProfiler.Number

/-- `n` zero digits. -/
def zeros (n : Nat) : List Char := List.replicate n '0'

/-- The decimal digits of `n`, most significant first. -/
def digitsOf (n : Nat) : List Char := Nat.toDigits 10 n

/-- How shortest digits are placed around the decimal point. -/
structure ShortestLayout where
  /-- Where the point may stand for positional text: after `kk` digits with
  `low < kk ≤ high`; `none` writes every value positionally. -/
  positional : Option (Int × Int)
  /-- Integral values keep a `.0`. -/
  pointZero : Bool

/-- Profile documents: positional text from `1e-5` up to below `1e16`, `.0` kept, and
otherwise one digit, the remaining digits after a point, `e` and the exponent (`1e-7`,
`1.5e16`). -/
def ShortestLayout.document : ShortestLayout := ⟨some (-5, 16), true⟩

/-- Plain text: always positional, integral values without a point (`0.25`, `3`, `100`). -/
def ShortestLayout.plain : ShortestLayout := ⟨none, false⟩

/-- Places the digits `ds` of a value `0.ds · 10^kk`. -/
def ShortestLayout.place (L : ShortestLayout) (ds : List Char) (kk : Int) : List Char :=
  let exponent := kk - ds.length
  let inWindow := match L.positional with
    | none => true
    | some (low, high) => low < kk ∧ kk ≤ high
  if inWindow then
    if 0 ≤ exponent then ds ++ zeros exponent.toNat ++ (if L.pointZero then ['.', '0'] else [])
    else if 0 < kk then ds.take kk.toNat ++ '.' :: ds.drop kk.toNat
    else '0' :: '.' :: zeros (-kk).toNat ++ ds
  else
    let mark := 'e' :: (toString (kk - 1)).toList
    match ds with
    | [d] => d :: mark
    | d :: rest => d :: '.' :: rest ++ mark
    | [] => mark

/-- The text of `±d` in shortest digits; zero is `0` or `0.0` by the layout. -/
def ShortestLayout.write (L : ShortestLayout) (negative : Bool) (d : Decimal) : String :=
  let body :=
    if d.digits = 0 then '0' :: (if L.pointZero then ['.', '0'] else [])
    else
      let ds := digitsOf d.digits
      L.place ds (ds.length + d.exponent)
  String.ofList ((if negative then ['-'] else []) ++ body)

/-- Shortest text of a finite double, `none` for NaN and the infinities. -/
def ShortestLayout.text? (L : ShortestLayout) (x : Float) : Option String :=
  match Binary.ofFloat x with
  | .finite negative m e =>
    some (L.write negative (if m = 0 then ⟨0, 0⟩ else Decimal.shortest m e))
  | _ => none

/-- The texts of the values that have no digits. -/
def nonFiniteText (plus : Bool) : Binary → String
  | .nan => "NaN"
  | .infinite true => "-inf"
  | .infinite false => if plus then "+inf" else "inf"
  | .finite _ _ _ => ""

/-- Plain display: shortest digits, always positional; `NaN`, `inf` and `-inf` otherwise. -/
def display (x : Float) : String :=
  (ShortestLayout.plain.text? x).getD (nonFiniteText false (Binary.ofFloat x))

/-- Document text of a finite double (`0.0`, `0.4`, `1e-7`), `none` otherwise. -/
def documentText? (x : Float) : Option String := ShortestLayout.document.text? x

/-- Fixed-place text: `places` digits after the point of the exact value rounded half to
even; negative values, zero included, keep their `-`, and `plus` writes `+` before the
others. NaN is written without a sign. -/
def fixed (places : Nat) (plus : Bool) (x : Float) : String :=
  match Binary.ofFloat x with
  | .finite negative m e =>
    let ds := digitsOf (Decimal.fixed m e places)
    let ds := zeros (places + 1 - ds.length) ++ ds
    let whole := ds.length - places
    let body := if places = 0 then ds else ds.take whole ++ '.' :: ds.drop whole
    String.ofList ((if negative then ['-'] else if plus then ['+'] else []) ++ body)
  | b => nonFiniteText plus b

end CausalProfiler.Number
