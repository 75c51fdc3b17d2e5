import CausalProfiler.Engine.Basic
/-!
A whole run of the controller on a virtual clock. The controller writes the startup records,
waits for a progress point unless it runs end to end, and then runs rounds until the profiler
stops: select a line, begin a round, hold it, finish it, adapt the length, and cool off. An end
to end run holds its one round until the profiler stops. Once stopped, the controller writes the
sample counts and the shutdown record.

The controller is a `Phase` and a wake time: it acts now, at a time of the clock, or only after
another thread changed the profiler (a point appeared, a line was proposed, the profiler
stopped). `Controller.advance` lets it act, moving the clock to each wake time, up to a deadline.
What it measures on the host, the visit overhead it logs and how long its sleeps last, comes from
a `Host`.
-/
namespace CausalProfiler

/-- Where the controller is in its run. -/
inductive Phase where
  | starting
  | awaitingPoints
  | looping
  | selecting
  /-- Idling through a round until the given time. -/
  | holding (r : Round) (endsAt : Nat)
  /-- A round with arrival speedup: `elapsed` of `length` passed, the current sleep of one sample
  period begun at `began`. -/
  | pacing (r : Round) (elapsed length began : Nat)
  | coolingOff (endsAt : Nat)
  | stopped
  | failed (f : Fault)

namespace Controller

/-- When the controller acts next in a phase: a time of the clock, or none while it waits for
another thread. A sleep of one sample period ends when the host ends it. -/
def wake (host : Host) (c : Controller) : Phase → Option Nat
  | .starting | .looping => some c.world.clock
  | .awaitingPoints =>
    if !c.world.profiler.running || !c.world.profiler.points.isEmpty then some c.world.clock
    else none
  | .selecting =>
    if c.engine.fixedLine.isSome || c.world.profiler.proposal.isSome || !c.world.profiler.running
    then some c.world.clock else none
  | .holding _ endsAt => if c.world.profiler.running then some endsAt else some c.world.clock
  | .pacing _ _ _ began =>
    some (began + host.sleep (max c.world.profiler.engine.samplePeriod 1) began)
  | .coolingOff endsAt => if c.world.profiler.running then some endsAt else some c.world.clock
  | .stopped | .failed _ => none

/-- Finishes a round: logs it, adapts the length, logs the samples every few rounds, and either
stops (end to end) or cools off. -/
def afterRound (r : Round) : ControlM Phase := do
  let o ← finishRound r
  adaptLength o.minDelta
  let c ← get
  let e := { c.engine with experiments := c.engine.experiments + 1 }
  setEngine e
  if e.experiments % sampleLogInterval = 0 then logSamples
  if e.endToEnd then
    logShutdown
    pure .stopped
  else
    let _ ← lift c.world.profiler.engine.batchPeriod
    pure (.coolingOff (Word.addSat c.world.clock c.world.profiler.engine.cooloff))

/-- Begins a round on a line and holds it: an end-to-end round for as long as the profiler
runs, another for the engine's length. -/
def startRound (line : Nat) : ControlM Phase := do
  let delay ← chooseDelay
  let r ← beginRound line delay
  let c ← get
  let length := if c.engine.endToEnd then Word.max else c.engine.length
  if r.arrivalSpeedup = 0 then
    let _ ← lift c.world.profiler.engine.batchPeriod
    pure (.holding r (Word.addSat c.world.clock length))
  else if c.world.profiler.running ∧ 0 < length then pure (.pacing r 0 length c.world.clock)
  else afterRound r

/-- What the controller does when it wakes in a phase on a host. -/
def act (host : Host) : Phase → ControlM Phase
  | .starting => do
    logStartup host.visitOverhead
    let c ← get
    if c.engine.endToEnd then pure .looping
    else
      if c.world.profiler.running ∧ c.world.profiler.points.isEmpty then
        let _ ← lift c.world.profiler.engine.batchPeriod
      pure .awaitingPoints
  | .awaitingPoints => pure .looping
  | .looping => do
    let c ← get
    if c.world.profiler.running then
      if c.engine.fixedLine.isNone then
        let _ ← lift c.world.profiler.engine.batchPeriod
      pure .selecting
    else
      logShutdown
      pure .stopped
  | .selecting => do
    match ← readyLine with
    | some line => startRound line
    | none =>
      logShutdown
      pure .stopped
  | .holding r _ => afterRound r
  | .pacing r elapsed length began => do
    -- the sleep lasted from its beginning to now, as the clock reads
    let c ← get
    let slept := c.world.clock - began
    let amount ← lift (Word.mul slept r.arrivalSpeedup)
    setProfiler (c.world.profiler.insertDelay (amount / 100))
    let elapsed := Word.addSat elapsed slept
    if elapsed < length ∧ c.world.profiler.running then
      pure (.pacing r elapsed length c.world.clock)
    else afterRound r
  | .coolingOff _ => pure .looping
  | ph => pure ph

/-- One action; a fault ends the run and keeps what happened before it. -/
def step (host : Host) (ph : Phase) (c : Controller) : Phase × Controller :=
  match (act host ph).run.run c with
  | (.ok ph, c) => (ph, c)
  | (.error f, c) => (.failed f, c)

end Controller

/-- Counts the non-overlapping occurrences of a pattern in a text that grows at its end. The
tail is the part of the text that may still start an occurrence. -/
structure Watch where
  pattern : List Char
  found : Nat
  tail : List Char
  /-- Log records already read. -/
  seen : Nat

namespace Watch

/-- Scans a text from the left for a nonempty pattern: the matches, and the tail too short to
tell. -/
def scan (pattern : List Char) (text : List Char) : Nat × List Char :=
  match pattern with
  | [] => (0, [])
  | c :: cs =>
    if text.length < cs.length + 1 then (0, text)
    else if (c :: cs).isPrefixOf text then
      let (n, rest) := scan (c :: cs) (text.drop (cs.length + 1))
      (n + 1, rest)
    else match text with
      | [] => (0, [])
      | _ :: rest => scan (c :: cs) rest
termination_by text.length
decreasing_by all_goals (simp_wf <;> omega)

def create (pattern : String) : Watch := ⟨pattern.toList, 0, [], 0⟩

/-- Reads the records written since the last look. -/
def read (w : Watch) (l : Log) : Watch :=
  let fresh := (l.since w.seen).flatMap fun r => (r.render ++ "\n").toList
  let (n, tail) := scan w.pattern (w.tail ++ fresh)
  { w with found := w.found + n, tail := tail, seen := l.size }

/-- Whether the pattern occurred `count` times; an empty pattern occurs everywhere. -/
def reached (w : Watch) (count : Nat) : Bool := w.pattern.isEmpty || count ≤ w.found

end Watch

namespace Controller

/-- Moves the clock to a time, if it is not past it. -/
def waitUntil (c : Controller) (t : Nat) : Controller :=
  { c with world := { c.world with clock := max c.world.clock t } }

/-- Lets the controller act until it waits past the deadline or for another thread, or the
fuel is spent; the clock moves to each wake time. -/
def advance (host : Host) (deadline : Nat) : Nat → Phase → Controller → Phase × Controller
  | 0, ph, c => (ph, c)
  | fuel + 1, ph, c =>
    match c.wake host ph with
    | none => (ph, c)
    | some t =>
      if deadline < t then (ph, c)
      else
        let (ph, c) := step host ph (c.waitUntil t)
        advance host deadline fuel ph c

/-- Like `advance`, but also stops once the log holds the watched pattern `count` times. -/
def awaitLog (host : Host) (count deadline : Nat) :
    Nat → Watch → Phase → Controller → Watch × Phase × Controller
  | 0, w, ph, c => (w, ph, c)
  | fuel + 1, w, ph, c =>
    let w := w.read c.world.log
    if w.reached count then (w, ph, c)
    else match c.wake host ph with
      | none => (w, ph, c)
      | some t =>
        if deadline < t then (w, ph, c)
        else
          let (ph, c) := step host ph (c.waitUntil t)
          awaitLog host count deadline fuel w ph c

end Controller

end CausalProfiler
