import CausalProfiler.Number.Binary
/-!
Decimal values of finite doubles, computed exactly on naturals.

* `Decimal.shortest` gives the fewest significant digits that read back to the double: the
  reals that read back form an interval around it (ends included iff the mantissa is even),
  and on each decimal grid only the value's two neighbours can lie in it. Of two hits the
  nearer wins; an exact tie goes to the even digit.
* `Decimal.fixed` rounds the exact binary value to a number of places, a half going to the
  even neighbour.
* `Decimal.toFloat` reads `digits · 10^exponent` back as the nearest double.
-/
namespace CausalProfiler.Number

/-- A decimal `digits · 10^exponent`. -/
structure Decimal where
  digits : Nat
  exponent : Int
deriving Repr, DecidableEq

/-- Compares `a · 10^p` with `b · 2^e` exactly. -/
def compareScaled (a : Nat) (p : Int) (b : Nat) (e : Int) : Ordering :=
  compare (a * Nat.pow 10 p.toNat * Nat.pow 2 (-e).toNat) (b * Nat.pow 2 e.toNat * Nat.pow 10 (-p).toNat)

/-- `⌊m · 2^e / 10^p⌋`. -/
def floorScaled (m : Nat) (e p : Int) : Nat :=
  m * Nat.pow 2 e.toNat * Nat.pow 10 (-p).toNat / (Nat.pow 2 (-e).toNat * Nat.pow 10 p.toNat)

/-- The number of decimal digits of `n`, at least one. -/
def decimalLength (n : Nat) : Nat := (Nat.toDigits 10 n).length

/-- Moves `t` towards `⌊log₁₀ (m · 2^e)⌋` one power of ten a step: down while `10^t` exceeds
the value, up while `10^(t+1)` does not; `fuel` bounds the steps. -/
def settleLog10 (m : Nat) (e : Int) (t : Int) : Nat → Int
  | 0 => t
  | fuel + 1 =>
    if compareScaled 1 t m e = .gt then settleLog10 m e (t - 1) fuel
    else if compareScaled 1 (t + 1) m e != .gt then settleLog10 m e (t + 1) fuel
    else t

/-- `⌊log₁₀ (m · 2^e)⌋` for a positive double `m · 2^e`. The value lies in `[2^b, 2^(b+1))` for
its highest bit `b`, and `|b| < 1100`, so `⌊b · 78913 / 2^18⌋`, with `78913 / 2^18` within
`10^-6` of `log₁₀ 2`, is at most two away from the answer; exact comparisons settle it. -/
def floorLog10 (m : Nat) (e : Int) : Int :=
  let b : Int := (bitLength m : Int) - 1 + e
  settleLog10 m e (b * 78913 / 262144) 4

/-- The reals that read back to the positive double `m · 2^e`, in units of `2^(e-2)`: the
value is `4m`, half a step above is `4m + 2`, and half a step below is `4m - 2`, or
`4m - 1` where the step below is half as wide (the smallest mantissa of a binade above the
subnormals). Ties read back to the even mantissa, so the ends belong to it iff `m` is even. -/
structure Interval where
  low : Nat
  high : Nat
  unit : Int
  closed : Bool

def Interval.around (m : Nat) (e : Int) : Interval :=
  let narrowBelow := m = Nat.pow 2 52 ∧ Binary.minExponent < e
  { low := if narrowBelow then 4 * m - 1 else 4 * m - 2
    high := 4 * m + 2
    unit := e - 2
    closed := m % 2 = 0 }

/-- Whether `k · 10^p` reads back to the double the interval belongs to. -/
def Interval.holds (I : Interval) (k : Nat) (p : Int) : Bool :=
  let below := compareScaled k p I.low I.unit
  let above := compareScaled k p I.high I.unit
  if I.closed then below != .lt && above != .gt
  else below == .gt && above == .lt

/-- Drops trailing zero digits, raising the exponent to keep the value. -/
def Decimal.normalize (d : Decimal) : Decimal :=
  if h : 0 < d.digits ∧ d.digits % 10 = 0 then
    Decimal.normalize ⟨d.digits / 10, d.exponent + 1⟩
  else d
termination_by d.digits
decreasing_by exact Nat.div_lt_self h.1 (by decide)

/-- Of the neighbours `k` and `k + 1` on the grid `10^p`, the one nearer to `m · 2^e`;
at an exact midpoint the even one. -/
def nearerNeighbour (m : Nat) (e : Int) (k : Nat) (p : Int) : Nat :=
  match compareScaled (2 * k + 1) p m (e + 1) with
  | .gt => k
  | .lt => k + 1
  | .eq => if k % 2 = 0 then k else k + 1

/-- The grid of `n` significant digits, if one of the value's two neighbours on it reads
back. -/
def gridHit (m : Nat) (e : Int) (I : Interval) (top : Int) (n : Nat) : Option Decimal :=
  let p := top + 1 - n
  let k := floorScaled m e p
  match I.holds k p, I.holds (k + 1) p with
  | true, true => some ⟨nearerNeighbour m e k p, p⟩
  | true, false => some ⟨k, p⟩
  | false, true => some ⟨k + 1, p⟩
  | false, false => none

/-- The shortest decimal that reads back to the positive double `m · 2^e`. Seventeen
significant digits always suffice, so the search ends by then. -/
def Decimal.shortest (m : Nat) (e : Int) : Decimal :=
  let I := Interval.around m e
  let top := floorLog10 m e
  let found := (List.range 17).findSome? fun i => gridHit m e I top (i + 1)
  (found.getD ⟨nearerNeighbour m e (floorScaled m e (top - 16)) (top - 16), top - 16⟩).normalize

/-- `m · 2^e` rounded to `places` decimal places, as a count of `10^-places`; a half goes
to the even neighbour. -/
def Decimal.fixed (m : Nat) (e : Int) (places : Nat) : Nat :=
  let (n, d) := scaleByTwo (m * Nat.pow 10 places) 1 (-e)
  roundHalfEven n d

/-- The double nearest to `±digits · 10^exponent`. Values with more than 310 integer digits
are infinite and values below `10^-330` are zero, so the exact arithmetic stays bounded. -/
def Decimal.toFloat (negative : Bool) (d : Decimal) : Float :=
  let magnitude := (decimalLength d.digits : Int) + d.exponent
  if d.digits = 0 then nearest negative 0 1
  else if 310 < magnitude then Float.ofBits (infinityBits negative)
  else if magnitude < -330 then nearest negative 0 1
  else nearest negative (d.digits * Nat.pow 10 d.exponent.toNat) (Nat.pow 10 (-d.exponent).toNat)

end CausalProfiler.Number
