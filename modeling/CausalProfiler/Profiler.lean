import CausalProfiler.Settings
import CausalProfiler.SourceMap
import CausalProfiler.Registry
import CausalProfiler.ThreadTable
/-!
The profiler's shared state and the virtual-delay protocol.

While an experiment runs, every sample of the selected line charges the sampled thread the
experiment's delay size, up to a cap per experiment. Threads reconcile their own delay with the
global delay: a thread ahead raises the global delay, a thread behind pays the difference. A
thread that blocks is credited with the global delay inserted while it was blocked, so being
woken by another thread never makes it pay twice. Outside an experiment, the first sampled line
becomes the proposal for the next one.

Threads are addressed by their slot in the thread table: a slot keeps its account after its
thread is removed, which is what a caller holding a slot sees.
-/
namespace CausalProfiler

/-- The throughput point that counts whole runs in end-to-end mode. -/
def endToEndPoint : String := "end-to-end"

/-- A thread's delay account: the delay it has paid or been charged, and the global delay when
it last entered a blocking call. -/
structure ThreadDelay where
  paid : Nat
  blockedAt : Nat
deriving Repr, DecidableEq

/-- Everything shared between the profiled threads and the experiment controller. -/
structure Profiler where
  engine : EngineSettings
  map : SourceMap
  /-- Samples attributed to each line, by line id. -/
  samples : List Nat
  points : Registry
  threads : ThreadTable ThreadDelay
  /-- The delay every thread must have paid by now. -/
  global : Nat
  /-- The delay charged per sample of the selected line. -/
  delaySize : Nat
  active : Bool
  /-- The global delay when the current experiment began. -/
  roundStart : Nat
  selected : Option Nat
  /-- The line sampling proposed for the next experiment. -/
  proposal : Option Nat
  running : Bool
  /-- Whether the end-to-end point exists, to be visited once at shutdown. -/
  endToEnd : Bool

namespace Profiler

/-- A profiler over a source map; the configured progress points exist from the start, as far
as the registry has room. -/
def create (s : Settings) (map : SourceMap) : Profiler :=
  let points := s.progressPoints.foldl (fun r name => (r.throughputPoint name).getD r)
    (Registry.create s.engine.pointCapacity)
  let (points, endToEnd) :=
    if s.endToEnd then match points.throughputPoint endToEndPoint with
      | some r => (r, true)
      | none => (points, false)
    else (points, false)
  { engine := s.engine, map := map, samples := map.lines.map fun _ => 0, points := points,
    threads := ThreadTable.create s.engine.threadCapacity ⟨0, 0⟩, global := 0, delaySize := 0,
    active := false, roundStart := 0, selected := none, proposal := none, running := true,
    endToEnd := endToEnd }

/-- The samples attributed to a line; zero for an unknown id. -/
def lineSamples (p : Profiler) (id : Nat) : Nat := (p.samples[id]?).getD 0

/-- The display name of a line, `<line id>` for an unknown id. -/
def lineName (p : Profiler) (id : Nat) : String :=
  match p.map.line? id with
  | some l => l.name
  | none => "<line " ++ toString id ++ ">"

/-- The slot of a registered thread. -/
def slot? (p : Profiler) (tid : Nat) : Option Nat := p.threads.find? tid

/-- The account of a slot. -/
def account (p : Profiler) (i : Nat) : ThreadDelay := (p.threads.value? i).getD ⟨0, 0⟩

def setAccount (p : Profiler) (i : Nat) (f : ThreadDelay → ThreadDelay) : Profiler :=
  { p with threads := p.threads.modifyValue i f }

/-- The registered threads and the delay each has paid, in slot order. -/
def delays (p : Profiler) : List (Nat × Nat) := p.threads.entries.map fun (k, d) => (k, d.paid)

/-- Registers a thread with a starting delay, resetting its account; the slot, or none when
the table is full. The two reserved words are a fault. -/
def register (p : Profiler) (tid initial : Nat) : Except Fault (Option Nat × Profiler) :=
  match p.threads.insert tid with
  | .error f => .error f
  | .ok none => .ok (none, p)
  | .ok (some (i, t)) => .ok (some i, { p with threads := t.modifyValue i fun _ => ⟨initial, 0⟩ })

/-- The most a thread may be charged in the current experiment. -/
def cap (p : Profiler) : Nat := Word.addSat p.roundStart p.engine.maxDelayPerExperiment

/-- Charges a slot `amount` of delay, not past the cap; a slot at the cap stays. -/
def charge (p : Profiler) (i : Nat) (amount : Nat) : Profiler :=
  p.setAccount i fun d => if d.paid < p.cap then { d with paid := min (d.paid + amount) p.cap } else d

/-- What a slot that read the global delay `global` and its own delay `own < global` pays: the
debt, and the time it overslept when the debt belongs to the current experiment, up to the cap. -/
def payment (p : Profiler) (global own overshoot : Nat) : Nat :=
  (global - own) + if p.roundStart ≤ own then min overshoot (p.cap - global) else 0

/-- The last atomic step of a reconciliation that read `global` and the slot's own delay
`own`. A slot that was ahead raises the global delay to `own`; one that was behind adds its
payment to whatever its delay is by now, since charges may have landed while it slept. -/
def settle (p : Profiler) (i global own overshoot : Nat) : Profiler :=
  if global < own then { p with global := max p.global own }
  else if own < global then
    p.setAccount i fun d => { d with paid := Word.addWrap d.paid (p.payment global own overshoot) }
  else p

/-- Reconciles a slot with the global delay, sleeping off a debt with the given oversleep.
Outside an experiment the slot takes the global delay. During one, a slot ahead raises the
global delay to its own, and a slot behind pays. -/
def addDelays (p : Profiler) (i overshoot : Nat) : Profiler :=
  if !p.active then p.setAccount i fun d => { d with paid := p.global }
  else p.settle i p.global (p.account i).paid overshoot

/-- Reconciliation on a clock that sleeps exactly, so no oversleep is credited. -/
def reconcile (p : Profiler) (i : Nat) : Profiler := p.addDelays i 0

/-- Pays outstanding delay before waking another thread; nothing outside an experiment. -/
def catchUp (p : Profiler) (i : Nat) : Profiler := if p.active then p.reconcile i else p

/-- Notes the global delay before a blocking call. -/
def preBlock (p : Profiler) (i : Nat) : Profiler :=
  p.setAccount i fun d => { d with blockedAt := p.global }

/-- Credits the global delay inserted while the slot was blocked, when it is to be credited. -/
def postBlock (p : Profiler) (i : Nat) (credited : Bool) : Profiler :=
  if credited then
    p.setAccount i fun d => { d with paid := Word.addWrap d.paid (p.global - d.blockedAt) }
  else p

/-- Attributes a sample taken on a slot's thread: the line gains a sample; during an experiment
a sample of the selected line charges the delay size, and outside one the line becomes the
proposal unless one is pending. -/
def takeSample (p : Profiler) (i : Nat) (s : Sample) : Profiler :=
  match p.map.resolve? s with
  | none => p
  | some id =>
    let p := { p with samples := p.samples.modify id fun n => Word.addWrap n 1 }
    if p.active then (if p.selected = some id then p.charge i p.delaySize else p)
    else { p with proposal := p.proposal <|> some id }

/-- Removes a thread after a last reconciliation that overslept by `overshoot`. -/
def unregisterAfter (p : Profiler) (tid overshoot : Nat) : Profiler :=
  match p.slot? tid with
  | none => p
  | some i => let p := p.addDelays i overshoot; { p with threads := (p.threads.remove tid).2 }

/-- Removes a thread after a last reconciliation on a clock that sleeps exactly. -/
def unregister (p : Profiler) (tid : Nat) : Profiler := p.unregisterAfter tid 0

/-- Takes the pending proposal. -/
def takeProposal (p : Profiler) : Option Nat × Profiler := (p.proposal, { p with proposal := none })

/-- Starts charging samples of `line` with `delaySize` and returns the global delay at the
start. The line is stored as its successor, so the largest word is a fault, raised after the
delay size and start are stored. -/
def beginExperiment (p : Profiler) (line delaySize : Nat) : Profiler × Except Fault Nat :=
  let p := { p with delaySize := delaySize, roundStart := p.global }
  match Word.add line 1 with
  | .error f => (p, .error f)
  | .ok _ => ({ p with selected := some line, active := true }, .ok p.global)

/-- Raises the global delay, so every thread pays `amount`. -/
def insertDelay (p : Profiler) (amount : Nat) : Profiler :=
  { p with global := Word.addWrap p.global amount }

/-- Stops the experiment and returns the global delay at its end. -/
def endExperiment (p : Profiler) : Nat × Profiler :=
  (p.global, { p with active := false, selected := none })

/-- Stops the profiler; the first time, the end-to-end point is visited once. -/
def shutdown (p : Profiler) : Profiler :=
  if !p.running then p
  else
    let points := if p.endToEnd then (p.points.visit .throughput endToEndPoint 1).getD p.points
      else p.points
    { p with points := points, running := false }

end Profiler

end CausalProfiler
