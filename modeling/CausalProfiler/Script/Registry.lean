import CausalProfiler.Registry
/-!
Scripts over one progress registry: lookups, visits, saves and later reads of saved snapshots
against the counters as they are at the read.
-/
namespace CausalProfiler.Script

inductive RegistryStep where
  | throughput (name : String)
  | latency (name : String)
  | visit (kind : PointKind) (name : String) (n : Nat)
  | isEmpty
  | save
  | snapshot (index : Nat)

inductive RegistryAnswer where
  | exists_ (present : Bool)
  | visits (count : Option Nat)
  | latencyCounts (counts : Option LatencyCounts)
  | flag (b : Bool)
  | saved (index : Nat)
  | snapshot (s : Option Snapshot) (r : Registry)

/-- A registry with the snapshots saved from it. -/
structure RegistryState where
  registry : Registry
  saved : List Snapshot

def RegistryStep.run (st : RegistryState) : RegistryStep → RegistryAnswer × RegistryState
  | .throughput name => match st.registry.throughputPoint name with
    | some r => (.exists_ true, { st with registry := r })
    | none => (.exists_ false, st)
  | .latency name => match st.registry.latencyPoint name with
    | some r => (.exists_ true, { st with registry := r })
    | none => (.exists_ false, st)
  | .visit kind name n => match st.registry.visit kind name n with
    | none => (match kind with
      | .throughput => .visits none
      | _ => .latencyCounts none, st)
    | some r => (match kind with
      | .throughput => .visits (some (r.visits name))
      | _ => .latencyCounts (some (r.latencyCounts name)), { st with registry := r })
  | .isEmpty => (.flag st.registry.isEmpty, st)
  | .save => (.saved st.saved.length, { st with saved := st.saved ++ [st.registry.save] })
  | .snapshot i => (.snapshot st.saved[i]? st.registry, st)

/-- The answers of a script on a fresh registry of the given capacity. -/
def runRegistry (capacity : Nat) (steps : List RegistryStep) : List RegistryAnswer :=
  (steps.foldl (fun (answers, st) step =>
    let (a, st) := step.run st
    (answers ++ [a], st)) (([] : List RegistryAnswer), ⟨Registry.create capacity, []⟩)).1

end CausalProfiler.Script
