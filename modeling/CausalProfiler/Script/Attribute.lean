import CausalProfiler.Attribute
import CausalProfiler.Settings
/-!
Probe programs for marked functions. The probe's function returns early with `1` for mode 1,
panics for mode 2 and returns `0` otherwise. The program calls it for some modes, installs a
profiler, calls it for more modes, and prints every point, one per line with tab-separated
fields; a point whose name holds a tab or a line break cannot be read back from that listing.
-/
namespace CausalProfiler.Script

/-- How one call of the probe's function ended. -/
inductive CallResult where
  | returned (value : Nat)
  | panicked
deriving Repr, DecidableEq

def probeCall (mode : Nat) : CallResult :=
  if mode = 1 then .returned 1 else if mode = 2 then .panicked else .returned 0

/-- What a probe program prints. -/
structure ProbeReport where
  before : List CallResult
  after : List CallResult
  throughput : List (String × Nat)
  latency : List (String × LatencyCounts)

/-- Whether a point's name survives the listing. -/
def listable (name : String) : Bool := !name.contains '\t' && !name.contains '\n'

/-- Runs the probe: the calls before the profiler exists count nothing. -/
def runProbe (f : MarkedFunction) (before after : List Nat) : Except (List String) ProbeReport := do
  let name ← f.pointName
  let r := after.foldl (fun r _ => MarkedFunction.countCall f.marker name r)
    (Registry.create EngineSettings.default.pointCapacity)
  pure ⟨before.map probeCall, after.map probeCall, r.throughput.filter (listable ·.1),
    r.latency.filter (listable ·.1)⟩

end CausalProfiler.Script
