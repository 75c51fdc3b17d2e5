/-!
Doubles as exact binary values. A finite double is `±mantissa · 2^exponent`; this module reads
that form off the 64 bits and builds the nearest double to a non-negative rational, ties going to
the even mantissa. Every printer and reader of numbers in the library stands on these two maps,
so none of them depends on the behaviour of `Float` operations.
-/
namespace CausalProfiler.Number

/-- What a double denotes: a finite `±mantissa · 2^exponent`, an infinity, or not a number. -/
inductive Binary where
  | finite (negative : Bool) (mantissa : Nat) (exponent : Int)
  | infinite (negative : Bool)
  | nan
deriving Repr, DecidableEq

namespace Binary

/-- The smallest binary exponent of a double: subnormals are `mantissa · 2^-1074`. -/
def minExponent : Int := -1074

/-- Splits the bits into sign, biased exponent and fraction. A zero exponent field is a
subnormal, an all-ones field an infinity or a NaN. -/
def ofBits (bits : UInt64) : Binary :=
  let n := bits.toNat
  let negative := decide (Nat.pow 2 63 ≤ n)
  let biased : Nat := n / Nat.pow 2 52 % Nat.pow 2 11
  let fraction : Nat := n % Nat.pow 2 52
  if biased = 2047 then
    if fraction = 0 then .infinite negative else .nan
  else if biased = 0 then .finite negative fraction minExponent
  else .finite negative (fraction + Nat.pow 2 52) ((biased : Int) - 1075)

def ofFloat (x : Float) : Binary := ofBits x.toBits

end Binary

/-- The number of binary digits of `n`; zero has none. -/
def bitLength (n : Nat) : Nat := if n = 0 then 0 else n.log2 + 1

/-- `n / d` rounded to the nearest integer, a half going to the even neighbour. -/
def roundHalfEven (n d : Nat) : Nat :=
  let q := n / d
  let r := n % d
  if 2 * r < d then q
  else if d < 2 * r then q + 1
  else if q % 2 = 0 then q else q + 1

/-- `n / d · 2^-e`, as a numerator and denominator of naturals. -/
def scaleByTwo (n d : Nat) (e : Int) : Nat × Nat :=
  (n * Nat.pow 2 (-e).toNat, d * Nat.pow 2 e.toNat)

/-- The binary exponent `e` at which `n / d · 2^-e` has 53 integer bits, or the subnormal
exponent when the value is too small for that. -/
def binaryExponent (n d : Nat) : Int :=
  let guess : Int := (bitLength n : Int) - bitLength d - 53
  let (a, b) := scaleByTwo n d guess
  let e := if Nat.pow 2 53 ≤ a / b then guess + 1 else guess
  max e Binary.minExponent

/-- The bits of the infinity of the given sign. -/
def infinityBits (negative : Bool) : UInt64 :=
  UInt64.ofNat ((if negative then Nat.pow 2 63 else 0) + 2047 * Nat.pow 2 52)

/-- The bits of the double nearest to `n / d` (`d > 0`), with the given sign: ties go to the
even mantissa, and values beyond the largest finite double become infinite. -/
def nearestBits (negative : Bool) (n d : Nat) : UInt64 :=
  let sign : Nat := if negative then Nat.pow 2 63 else 0
  if n = 0 then UInt64.ofNat sign
  else
    let e := binaryExponent n d
    let (a, b) := scaleByTwo n d e
    let m := roundHalfEven a b
    -- rounding up may carry into a 54th bit
    let (m, e) := if m = Nat.pow 2 53 then (Nat.pow 2 52, e + 1) else (m, e)
    if m < Nat.pow 2 52 then UInt64.ofNat (sign + m)
    else if 971 < e then infinityBits negative
    else UInt64.ofNat (sign + (e + 1075).toNat * Nat.pow 2 52 + (m - Nat.pow 2 52))

/-- The double nearest to `±n / d`. -/
def nearest (negative : Bool) (n d : Nat) : Float := Float.ofBits (nearestBits negative n d)

end CausalProfiler.Number
