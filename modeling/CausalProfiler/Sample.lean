import CausalProfiler.Fault
/-!
Samples and sample rings. A sample is an instruction address and up to four return addresses
of the call chain. A ring holds at most thirty-two samples between a producer and a consumer:
`head` counts samples written and `tail` samples consumed, both wrapping around the word, and
the entry of count `c` lives at `c mod 32`. A full ring drops the sample and counts the drop.
-/
namespace CausalProfiler

/-- The longest call chain a sample keeps. -/
def Sample.maxCallchain : Nat := 4

/-- An instruction address and the return addresses above it, innermost first. -/
structure Sample where
  ip : Nat
  callchain : List Nat
deriving Repr, DecidableEq

/-- Appends a return address when there is room; whether it was kept. -/
def Sample.pushReturn (s : Sample) (addr : Nat) : Bool × Sample :=
  if s.callchain.length < Sample.maxCallchain then (true, { s with callchain := s.callchain ++ [addr] })
  else (false, s)

/-- A sample of `ip` with the given return addresses, as many as fit, and which were kept. -/
def Sample.build (ip : Nat) (addrs : List Nat) : List Bool × Sample :=
  addrs.foldl (fun (kept, s) a => let (k, s) := s.pushReturn a; (kept ++ [k], s)) ([], ⟨ip, []⟩)

/-- The number of entries of a ring. -/
def SampleRing.capacity : Nat := 32

/-- A ring of samples. -/
structure SampleRing where
  entries : List Sample
  head : Nat
  tail : Nat
  dropped : Nat

namespace SampleRing

def empty : SampleRing := ⟨List.replicate capacity ⟨0, []⟩, 0, 0, 0⟩

/-- How many samples wait. -/
def pending (r : SampleRing) : Nat := Word.subWrap r.head r.tail

/-- Writes a sample unless the ring is full; whether it was written. -/
def push (r : SampleRing) (s : Sample) : Bool × SampleRing :=
  if capacity ≤ r.pending then (false, { r with dropped := Word.addWrap r.dropped 1 })
  else (true, { r with entries := r.entries.set (r.head % capacity) s, head := Word.addWrap r.head 1 })

/-- The waiting samples, oldest first. -/
def waiting (r : SampleRing) : List Sample :=
  (List.range r.pending).filterMap fun i => r.entries[(r.tail + i) % capacity]?

/-- Takes every waiting sample, oldest first. -/
def drain (r : SampleRing) : List Sample × SampleRing := (r.waiting, { r with tail := r.head })

/-- Discards the waiting samples and the drop count. -/
def clear (r : SampleRing) : SampleRing := { r with tail := r.head, dropped := 0 }

end SampleRing

end CausalProfiler
