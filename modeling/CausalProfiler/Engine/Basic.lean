import CausalProfiler.Profiler
import CausalProfiler.Random
import CausalProfiler.Number.Format
import CausalProfiler.Number.Compare
/-!
The experiment controller. Each round picks a line (the fixed one, or the one sampling
proposed), picks a delay size (the fixed one, or a draw biased toward zero), saves every
progress point and activates the experiment; at the end it deactivates the experiment and logs
the outcome with every point's delta. The experiment length adapts so that each round sees
enough visits: it doubles when the smallest delta falls short of the target and halves when
it exceeds twice the target.

The controller's actions run in `ControlM`, a state monad over the engine and the world it
shares with the profiled threads. A fault stops an action and keeps what it did before.
-/
namespace CausalProfiler

/-- Experiments between two writes of the sample counts. -/
def sampleLogInterval : Nat := 32

/-- The profile log as written. A log whose sink refuses writes stays empty. -/
structure Log where
  refuses : Bool
  /-- The number of records written. -/
  size : Nat
  /-- The records written, the newest first. -/
  newestFirst : List Record

namespace Log

def empty (refuses : Bool) : Log := ⟨refuses, 0, []⟩

def write (l : Log) (r : Record) : Log :=
  if l.refuses then l else ⟨l.refuses, l.size + 1, r :: l.newestFirst⟩

/-- The records in the order written. -/
def records (l : Log) : List Record := l.newestFirst.reverse

/-- The records written after the first `n`. -/
def since (l : Log) (n : Nat) : List Record := (l.newestFirst.take (l.size - n)).reverse

end Log

/-- What the controller shares with the profiled threads: the profiler, the log, and a clock
counting nanoseconds since the profiler was created. -/
structure World where
  profiler : Profiler
  log : Log
  clock : Nat

/-- The controller's own state. -/
structure Engine where
  rng : Xoshiro
  /-- The length of the next experiment. -/
  length : Nat
  fixedLine : Option Nat
  fixedDelay : Option Nat
  endToEnd : Bool
  arrival : Bool
  experiments : Nat

/-- The engine for a profiler: a fixed line is looked up by name and ignored when unknown, and
the draws come from the generator seeded with `seed`. A fixed speedup whose delay leaves the
word is a fault. -/
def Engine.create (s : Settings) (p : Profiler) (seed : Nat) : Except Fault Engine := do
  let fixedDelay ← s.fixedDelay
  pure { rng := Xoshiro.seed seed.toUInt64, length := p.engine.experimentMinTime,
         fixedLine := s.fixedLine.bind p.map.findByName?, fixedDelay := fixedDelay,
         endToEnd := s.endToEnd, arrival := s.arrivalSpeedup, experiments := 0 }

/-- The engine and the world it drives. -/
structure Controller where
  engine : Engine
  world : World

/-- What the controller measures on the host besides reading its clock: the nanoseconds one visit
of a progress point costs, as calibrated when the controller starts, and how long a sleep lasts
that is asked to last some nanoseconds from a time of the clock. A sleep lasts at least as long as
asked. -/
structure Host where
  visitOverhead : Nat
  sleep : Nat → Nat → Nat
  sleep_ge : ∀ asked t, asked ≤ sleep asked t

abbrev ControlM := ExceptT Fault (StateM Controller)

/-- What an experiment starts from. -/
structure Round where
  line : Nat
  delaySize : Nat
  startTime : Nat
  startDelay : Nat
  startSamples : Nat
  /-- The percent of each sample period inserted as global delay. -/
  arrivalSpeedup : Nat
  points : Snapshot

/-- What an experiment gives. -/
structure Outcome where
  line : Nat
  /-- The delay size as a share of the sample period. -/
  speedup : Float
  delaySize : Nat
  wallTime : Nat
  /-- The global delay inserted during the experiment. -/
  delays : Nat
  /-- The wall time less the inserted delay. -/
  duration : Nat
  selectedSamples : Nat
  arrivalSpeedup : Option Float
  minDelta : Option Nat

namespace Controller

def lift {α : Type} : Except Fault α → ControlM α
  | .ok a => pure a
  | .error f => throw f

def profiler : ControlM Profiler := return (← get).world.profiler

def setProfiler (p : Profiler) : ControlM Unit :=
  modify fun c => { c with world := { c.world with profiler := p } }

def setEngine (e : Engine) : ControlM Unit := modify fun c => { c with engine := e }

def emit (r : Record) : ControlM Unit :=
  modify fun c => { c with world := { c.world with log := c.world.log.write r } }

/-- One of `weight + divisions + 1` equally likely outcomes: the first `weight + 1` give
zero, the others evenly spaced shares of `scale`. -/
def draw (scale : Nat) : ControlM Nat := do
  let c ← get
  let weight := c.world.profiler.engine.zeroSpeedupWeight
  let divisions := max c.world.profiler.engine.speedupDivisions 1
  let top ← lift (Word.add weight divisions)
  let (r, rng) := c.engine.rng.upTo top.toUInt64
  setEngine { c.engine with rng := rng }
  if r.toNat ≤ weight then pure 0
  else pure ((← lift (Word.mul (r.toNat - weight) scale)) / divisions)

/-- The delay size of the next experiment. -/
def chooseDelay : ControlM Nat := do
  let c ← get
  match c.engine.fixedDelay with
  | some d => pure d
  | none => draw c.world.profiler.engine.samplePeriod

/-- The arrival speedup percent of the next experiment; zero when arrival speedup is off. -/
def chooseArrival : ControlM Nat := do
  if (← get).engine.arrival then draw 100 else pure 0

/-- The line for the next experiment when one is ready: the fixed line, else the proposal,
which is taken. -/
def readyLine : ControlM (Option Nat) := do
  let c ← get
  match c.engine.fixedLine with
  | some l => pure (some l)
  | none =>
    let _ ← lift c.world.profiler.engine.batchPeriod
    let (line, p) := c.world.profiler.takeProposal
    setProfiler p
    pure line

/-- Saves the points and activates an experiment on `line`. -/
def beginRound (line delay : Nat) : ControlM Round := do
  let arrival ← chooseArrival
  let c ← get
  let p := c.world.profiler
  let points := p.points.save
  let startSamples := p.lineSamples line
  let (p, start) := p.beginExperiment line delay
  setProfiler p
  let start ← lift start
  let now := toString c.world.clock
  let selected := p.lineName line
  if delay = 0 then emit ⟨"start-baseline", [("time", now), ("selected", selected)]⟩
  else emit ⟨"start-speedup", [("time", now), ("selected", selected), ("delay-size", toString delay)]⟩
  pure ⟨line, delay, c.world.clock, start, startSamples, arrival, points⟩

/-- Ends the experiment of a round and logs its outcome and every point's delta. -/
def finishRound (r : Round) : ControlM Outcome := do
  let c ← get
  let (endDelay, p) := c.world.profiler.endExperiment
  setProfiler p
  let endTime := c.world.clock
  let wallTime := endTime - r.startTime
  let delays := endDelay - r.startDelay
  let duration := wallTime - delays
  let selectedSamples := p.lineSamples r.line - r.startSamples
  let speedup := Number.ofWord r.delaySize / Number.ofWord p.engine.samplePeriod
  let arrival := if c.engine.arrival then some (Number.ofWord r.arrivalSpeedup / 100) else none
  let tag := if r.delaySize = 0 then "baseline" else "speedup"
  emit ⟨"end-" ++ tag, [("time", toString endTime), ("delays", toString delays)]⟩
  emit ⟨"experiment", [("selected", p.lineName r.line), ("speedup", Number.fixed 2 false speedup),
    ("duration", toString duration), ("selected-samples", toString selectedSamples)] ++
    (arrival.map fun a => [("arrival-speedup", Number.fixed 2 false a)]).getD []⟩
  (r.points.records p.points).forM emit
  pure ⟨r.line, speedup, r.delaySize, wallTime, delays, duration, selectedSamples, arrival,
    r.points.minDelta p.points⟩

/-- Doubles the length, up to the longest, when the smallest delta fell short of the target;
halves a length of at least twice the shortest when the delta exceeded twice the target. -/
def adaptLength (minDelta : Option Nat) : ControlM Unit := do
  match minDelta with
  | none => pure ()
  | some delta =>
    let c ← get
    let e := c.world.profiler.engine
    if delta < e.targetDelta then
      let doubled ← lift (Word.mul c.engine.length 2)
      setEngine { c.engine with length := min doubled e.experimentMaxTime }
    else
      let twice ← lift (Word.mul e.targetDelta 2)
      if twice < delta then
        let least ← lift (Word.mul e.experimentMinTime 2)
        if least ≤ c.engine.length then setEngine { c.engine with length := c.engine.length / 2 }

/-- Logs the runtime so far and every sampled line's count. -/
def logSamples : ControlM Unit := do
  let c ← get
  let p := c.world.profiler
  emit ⟨"runtime", [("time", toString c.world.clock)]⟩
  (p.map.lines.zip p.samples).forM fun (line, count) =>
    if 0 < count then emit ⟨"samples", [("location", line.name), ("count", toString count)]⟩
    else pure ()

/-- Logs the start, with the sample period and the visit overhead the host measured. -/
def logStartup (overhead : Nat) : ControlM Unit := do
  let c ← get
  emit ⟨"startup", [("time", toString c.world.clock)]⟩
  emit ⟨"info", [("sample-period", toString c.world.profiler.engine.samplePeriod),
    ("counter-overhead", toString overhead)]⟩

def logShutdown : ControlM Unit := do
  logSamples
  emit ⟨"shutdown", [("time", toString (← get).world.clock)]⟩

/-- Idles for `length` nanoseconds, or not at all once the profiler stopped. The batch period
paces the idling, so one that leaves the word is a fault. -/
def idle (length : Nat) : ControlM Unit := do
  let c ← get
  let _ ← lift c.world.profiler.engine.batchPeriod
  if c.world.profiler.running then
    set { c with world := { c.world with clock := Word.addSat c.world.clock length } }

end Controller

end CausalProfiler
