import CausalProfiler.Registry
import CausalProfiler.Compiler.Argument
/-!
Functions marked as progress points. A `profile` function counts one visit of a throughput point
each time it returns, a `latency` function one arrival on entry and one departure on return; both
count also when the function unwinds. The point is named by the attribute's string literal, or
after the function's path within its crate. An argument that is not one string literal does not
compile.
-/
namespace CausalProfiler

/-- The two attributes that mark functions. -/
inductive PointAttribute where
  | profile
  | latency
deriving Repr, DecidableEq

/-- A marked function: its attribute, the attribute argument text, and where it is defined. -/
structure MarkedFunction where
  marker : PointAttribute
  argument : Option String
  crate : String
  module : Option String
  name : String

namespace MarkedFunction

/-- The function's path within its crate, `crate::module::name`. -/
def path (f : MarkedFunction) : String :=
  "::".intercalate ([f.crate] ++ f.module.toList ++ [f.name])

/-- The backslashes of the program around a marked function that stand outside its string
literals once an unclosed literal in the attribute has paired its quotes the other way round. -/
def runOnStrays : Nat := 7

/-- The point's name, or the compiler's error lines. -/
def pointName (f : MarkedFunction) : Except (List String) String :=
  match f.argument with
  | none => .ok f.path
  | some arg => match Compiler.compileArgument runOnStrays arg with
    | .ok none => .ok f.path
    | .ok (some v) => .ok v
    | .error lines => .error lines

/-- One call of a function marked with `a`, counted in a registry under `name`. -/
def countCall (a : PointAttribute) (name : String) (r : Registry) : Registry :=
  match a with
  | .profile => (r.visit .throughput name 1).getD r
  | .latency =>
    let r := (r.visit .begin name 1).getD r
    (r.visit .finish name 1).getD r

end MarkedFunction

end CausalProfiler
