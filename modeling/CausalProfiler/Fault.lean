/-!
Faults: the checks that stop a computation outright. Arithmetic on 64-bit words is checked,
and a result outside the word stops the computation with the operation's fault; the thread table
refuses its two reserved keys the same way. A fault is not an error of the input but a broken
expectation of the code, and it carries its own message.
-/
namespace CausalProfiler

/-- Why a computation stopped. -/
inductive Fault where
  | addOverflow
  | subOverflow
  | mulOverflow
  | reservedKey
deriving Repr, DecidableEq

/-- The message of a fault. -/
def Fault.message : Fault → String
  | .addOverflow => "attempt to add with overflow"
  | .subOverflow => "attempt to subtract with overflow"
  | .mulOverflow => "attempt to multiply with overflow"
  | .reservedKey => "assertion failed: key != EMPTY && key != TOMBSTONE"

namespace Word

/-- The number of values of a 64-bit word. -/
def size : Nat := Nat.pow 2 64

/-- The largest 64-bit word. -/
def max : Nat := Nat.pow 2 64 - 1

theorem size_eq : size = 18446744073709551616 := rfl

theorem size_eq_max_add_one : size = max + 1 := rfl

/-- Addition that stops at the largest word. -/
def addSat (a b : Nat) : Nat := Nat.min (a + b) max

/-- Checked addition of words. -/
def add (a b : Nat) : Except Fault Nat :=
  if a + b < size then .ok (a + b) else .error .addOverflow

/-- Checked subtraction of words. -/
def sub (a b : Nat) : Except Fault Nat :=
  if b ≤ a then .ok (a - b) else .error .subOverflow

/-- Checked multiplication of words. -/
def mul (a b : Nat) : Except Fault Nat :=
  if a * b < size then .ok (a * b) else .error .mulOverflow

/-- Addition that wraps around the word. -/
def addWrap (a b : Nat) : Nat := (a + b) % size

/-- Subtraction that wraps around the word. -/
def subWrap (a b : Nat) : Nat := (a + size - b % size) % size

/-- Subtraction that stops at zero. -/
def subSat (a b : Nat) : Nat := a - b

/-- A word read as a signed 64-bit value. -/
def toSigned (a : Nat) : Int := if a < Nat.pow 2 63 then a else (a : Int) - size

end Word

end CausalProfiler
