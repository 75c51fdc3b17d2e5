/-!
Key-sorted association lists: the tables of the library whose iteration order is the order of
their keys. `alter` is the one update: it changes the value at a key, first putting a given
initial value there in its place when the key is new.
-/
namespace CausalProfiler.Sorted

variable {κ β : Type} [Ord κ]

/-- Changes the value at `key` by `f`, starting from `init` when the key is absent. -/
def alter (key : κ) (init : β) (f : β → β) : List (κ × β) → List (κ × β)
  | [] => [(key, f init)]
  | (k, v) :: rest =>
    match compare key k with
    | .lt => (key, f init) :: (k, v) :: rest
    | .eq => (k, f v) :: rest
    | .gt => (k, v) :: alter key init f rest

/-- The value at `key`. -/
def find? (key : κ) : List (κ × β) → Option β
  | [] => none
  | (k, v) :: rest => if compare key k == .eq then some v else find? key rest

/-- The table with an entry at `key`: the table itself when the key is there, the key added at
`init` when the table holds fewer than `capacity` entries, and none when it is full. -/
def findOrAdd (capacity : Nat) (key : κ) (init : β) (l : List (κ × β)) :
    Option (List (κ × β)) :=
  match find? key l with
  | some _ => some l
  | none => if l.length < capacity then some (alter key init id l) else none

end CausalProfiler.Sorted
