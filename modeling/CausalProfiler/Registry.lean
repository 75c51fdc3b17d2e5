import CausalProfiler.Fault
import CausalProfiler.Sorted
import CausalProfiler.Profile.Record
/-!
Progress registries: throughput points, which count visits, and latency points, which count
transaction begins and ends, each kind a name-sorted table holding at most `capacity` points.
Looking a point up creates it when there is room. Counters wrap around the word. A snapshot
records every point's counters at one moment; its deltas are read later against the live
counters, so a snapshot read later shows what happened since.
-/
namespace CausalProfiler

/-- Latency counters: transactions begun and ended. -/
structure LatencyCounts where
  begins : Nat
  ends : Nat
deriving Repr, DecidableEq

/-- All progress points and their counters. -/
structure Registry where
  capacity : Nat
  throughput : List (String × Nat)
  latency : List (String × LatencyCounts)
deriving Repr

/-- Which counter a visit advances. -/
inductive PointKind where
  | throughput
  | begin
  | finish
deriving Repr, DecidableEq

namespace Registry

def create (capacity : Nat) : Registry := ⟨capacity, [], []⟩

/-- The throughput point of a name, created when new and there is room; none when full. -/
def throughputPoint (r : Registry) (name : String) : Option Registry :=
  (Sorted.findOrAdd r.capacity name 0 r.throughput).map fun t => { r with throughput := t }

/-- The latency point of a name, created when new and there is room; none when full. -/
def latencyPoint (r : Registry) (name : String) : Option Registry :=
  (Sorted.findOrAdd r.capacity name ⟨0, 0⟩ r.latency).map fun t => { r with latency := t }

/-- Visits a point `n` times, creating it if needed; none when it cannot exist. -/
def visit (r : Registry) (kind : PointKind) (name : String) (n : Nat) : Option Registry :=
  match kind with
  | .throughput => (r.throughputPoint name).map fun r =>
    { r with throughput := Sorted.alter name 0 (Word.addWrap · n) r.throughput }
  | .begin => (r.latencyPoint name).map fun r =>
    { r with latency := Sorted.alter name ⟨0, 0⟩ (fun c => { c with begins := Word.addWrap c.begins n }) r.latency }
  | .finish => (r.latencyPoint name).map fun r =>
    { r with latency := Sorted.alter name ⟨0, 0⟩ (fun c => { c with ends := Word.addWrap c.ends n }) r.latency }

def visits (r : Registry) (name : String) : Nat := (Sorted.find? name r.throughput).getD 0

def latencyCounts (r : Registry) (name : String) : LatencyCounts :=
  (Sorted.find? name r.latency).getD ⟨0, 0⟩

def isEmpty (r : Registry) : Bool := r.throughput.isEmpty && r.latency.isEmpty

end Registry

/-- Every point's counters at one moment, in name order. -/
structure Snapshot where
  throughput : List (String × Nat)
  latency : List (String × LatencyCounts)
deriving Repr

def Registry.save (r : Registry) : Snapshot := ⟨r.throughput, r.latency⟩

/-- A throughput point's visits since the snapshot. -/
structure ThroughputDelta where
  name : String
  delta : Nat

/-- A latency point's begins and ends since the snapshot, and the transactions in flight now. -/
structure LatencyDelta where
  name : String
  beginDelta : Nat
  endDelta : Nat
  difference : Int

namespace Snapshot

def throughputDeltas (s : Snapshot) (r : Registry) : List ThroughputDelta :=
  s.throughput.map fun (name, start) => ⟨name, Word.subWrap (r.visits name) start⟩

def latencyDeltas (s : Snapshot) (r : Registry) : List LatencyDelta :=
  s.latency.map fun (name, start) =>
    let now := r.latencyCounts name
    ⟨name, Word.subWrap now.begins start.begins, Word.subWrap now.ends start.ends,
      Word.toSigned (Word.subWrap now.begins now.ends)⟩

/-- The smallest delta of any counter; none for an empty snapshot. -/
def minDelta (s : Snapshot) (r : Registry) : Option Nat :=
  let all := (s.throughputDeltas r).map (·.delta) ++
    (s.latencyDeltas r).flatMap fun d => [d.beginDelta, d.endDelta]
  all.foldl (fun m d => some (match m with | some m => min m d | none => d)) none

/-- The log records of the snapshot's deltas: throughput points, then latency points. -/
def records (s : Snapshot) (r : Registry) : List Record :=
  (s.throughputDeltas r).map (fun d => ⟨"throughput-point", [("name", d.name), ("delta", toString d.delta)]⟩) ++
  (s.latencyDeltas r).map fun d => ⟨"latency-point", [("name", d.name),
    ("arrivals", toString d.beginDelta), ("departures", toString d.endDelta),
    ("difference", toString d.difference)]⟩

end Snapshot

end CausalProfiler
