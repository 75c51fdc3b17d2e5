import CausalProfiler.ThreadTable
/-!
Scripts over a thread table whose slots hold one word each: a list of operations run in order
on one table, each with its answer. A fault stops only the operation that raised it; the next
operation runs on the table as it was.
-/
namespace CausalProfiler.Script

/-- An operation on a table of words. -/
inductive TableStep where
  | insert (key : Nat) (value : Option Nat)
  | find (key : Nat)
  | remove (key : Nat)
  | size
  | isEmpty
  | capacity
  | entries

/-- What an operation answers. -/
inductive TableAnswer where
  | slotValue (value : Option Nat)
  | removed (found : Bool)
  | count (n : Nat)
  | flag (b : Bool)
  | listing (entries : List (Nat × Nat))
  | fault (f : Fault)

/-- Runs one operation. Inserting stores the value when given, and answers the slot's value. -/
def TableStep.run (t : ThreadTable Nat) : TableStep → TableAnswer × ThreadTable Nat
  | .insert key value =>
    match t.insert key with
    | .error f => (.fault f, t)
    | .ok none => (.slotValue none, t)
    | .ok (some (i, t)) =>
      let t := match value with
        | some v => t.modifyValue i fun _ => v
        | none => t
      (.slotValue (t.value? i), t)
  | .find key => (.slotValue ((t.find? key).bind t.value?), t)
  | .remove key => let (found, t) := t.remove key; (.removed found, t)
  | .size => (.count t.size, t)
  | .isEmpty => (.flag (t.size = 0), t)
  | .capacity => (.count t.capacity, t)
  | .entries => (.listing t.entries, t)

/-- The answers of a script on a fresh table of the given capacity. -/
def runTable (capacity : Nat) (steps : List TableStep) : List TableAnswer :=
  (steps.foldl (fun (answers, t) step =>
    let (a, t) := step.run t
    (answers ++ [a], t)) (([] : List TableAnswer), ThreadTable.create capacity 0)).1

end CausalProfiler.Script
