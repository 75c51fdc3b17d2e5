import CausalProfiler.Fault
/-!
Thread tables: a fixed number of slots (at least one) addressed by open addressing. A key's
probe starts at the key modulo the slot count and wraps around once. A slot is empty, a
tombstone left by a removal, or holds a key; the word `0` marks an empty slot and the largest
word a tombstone, so neither may be inserted. Inserting a present key returns its slot;
otherwise the first empty or tombstone slot on the probe is claimed. Lookups stop at an empty
slot. A slot's value stays with the slot, also when its key is removed and another claims it.
-/
namespace CausalProfiler

/-- What a slot holds. -/
inductive SlotKey where
  | empty
  | tombstone
  | holds (key : Nat)
deriving Repr, DecidableEq

/-- The word a slot's key is stored as. -/
def SlotKey.raw : SlotKey → Nat
  | .empty => 0
  | .tombstone => Nat.pow 2 64 - 1
  | .holds k => k

structure Slot (α : Type) where
  key : SlotKey
  value : α

/-- A thread table with values of type `α`. -/
structure ThreadTable (α : Type) where
  slots : List (Slot α)

namespace ThreadTable

variable {α : Type}

/-- A table of `max capacity 1` empty slots holding `init`. -/
def create (capacity : Nat) (init : α) : ThreadTable α :=
  ⟨List.replicate (max capacity 1) ⟨.empty, init⟩⟩

def capacity (t : ThreadTable α) : Nat := t.slots.length

/-- The slots a key's probe visits, in order. -/
def probe (t : ThreadTable α) (key : Nat) : List Nat :=
  let n := t.capacity
  (List.range n).map fun i => (key % n + i) % n

/-- The slot of a key: the first slot on its probe whose stored word equals the key, unless
an empty slot comes first. -/
def find? (t : ThreadTable α) (key : Nat) : Option Nat :=
  let rec go : List Nat → Option Nat
    | [] => none
    | i :: rest => match t.slots[i]? with
      | some ⟨.empty, _⟩ => none
      | some s => if s.key.raw = key then some i else go rest
      | none => go rest
  go (t.probe key)

/-- The first free (empty or tombstone) slot on a key's probe. -/
def freeSlot? (t : ThreadTable α) (key : Nat) : Option Nat :=
  (t.probe key).find? fun i => match t.slots[i]? with
    | some ⟨.empty, _⟩ | some ⟨.tombstone, _⟩ => true
    | _ => false

/-- Sets the key of a slot. -/
def setKey (t : ThreadTable α) (i : Nat) (k : SlotKey) : ThreadTable α :=
  ⟨t.slots.modify i fun s => { s with key := k }⟩

/-- The value of a slot. -/
def value? (t : ThreadTable α) (i : Nat) : Option α := (t.slots[i]?).map (·.value)

/-- Changes the value of a slot. -/
def modifyValue (t : ThreadTable α) (i : Nat) (f : α → α) : ThreadTable α :=
  ⟨t.slots.modify i fun s => { s with value := f s.value }⟩

/-- Inserts a key: its slot if present, else a claimed free slot, or none when full. The two
reserved words are a fault. -/
def insert (t : ThreadTable α) (key : Nat) : Except Fault (Option (Nat × ThreadTable α)) :=
  if key = 0 ∨ key = Nat.pow 2 64 - 1 then .error .reservedKey
  else match t.find? key with
    | some i => .ok (some (i, t))
    | none => .ok ((t.freeSlot? key).map fun i => (i, t.setKey i (.holds key)))

/-- Removes a key, leaving a tombstone; whether its slot was found. -/
def remove (t : ThreadTable α) (key : Nat) : Bool × ThreadTable α :=
  match t.find? key with
  | some i => (true, t.setKey i .tombstone)
  | none => (false, t)

/-- The keys held and their values, in slot order. -/
def entries (t : ThreadTable α) : List (Nat × α) :=
  t.slots.filterMap fun s => match s.key with
    | .holds k => some (k, s.value)
    | _ => none

def size (t : ThreadTable α) : Nat := t.entries.length

end ThreadTable

end CausalProfiler
