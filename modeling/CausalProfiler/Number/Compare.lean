/-!
Comparisons of doubles as the analysis uses them. `maxNum` and `minNum` pass over a NaN and
return the other operand, and of two equal operands, such as `+0` and `-0`, return the second;
`totalKey` orders every double, NaNs and signed zeros included:
negative NaNs, negative values by magnitude, `-0`, `+0`, positive values, positive NaNs.
-/
namespace CausalProfiler.Number

/-- The larger of two doubles; a NaN operand gives the other one, and equal operands the
second. -/
def maxNum (a b : Float) : Float :=
  if a.isNaN then b else if b.isNaN then a else if b < a then a else b

/-- The smaller of two doubles; a NaN operand gives the other one, and equal operands the
second. -/
def minNum (a b : Float) : Float :=
  if a.isNaN then b else if b.isNaN then a else if a < b then a else b

/-- A key whose integer order is the total order of doubles: values with the sign bit
set are reflected below zero, so `-0` sits just below `+0`. -/
def totalKey (x : Float) : Int :=
  let b := x.toBits.toNat
  if Nat.pow 2 63 ≤ b then -1 - ((b - Nat.pow 2 63 : Nat) : Int) else b

/-- The double nearest to a 64-bit word. -/
def ofWord (n : Nat) : Float := n.toUInt64.toFloat

/-- The double nearest to a signed 64-bit word. -/
def ofSignedWord (i : Int) : Float :=
  if i < 0 then -(ofWord i.natAbs) else ofWord i.toNat

end CausalProfiler.Number
