import CausalProfiler.Engine.Run
import CausalProfiler.Engine.Hold
import CausalProfiler.Sync
/-!
Profiler sessions: scripts of steps against one profiler and its controller, as a program's
threads and the controller would make them. Each step answers with its result or its error and
with the state after it: the global delay, whether an experiment is active and the profiler
runs, the controller's experiment length, every thread's paid delay, every line's samples, and
the log records written during the step, with the values read off the clock masked.

A blocking call (`intercept`) runs nested steps between noting and crediting the delay, and a
run hands the controller to its own thread: it acts on the clock until the log shows a pattern
often enough or a timeout passes, then the nested steps run, the profiler stops, and the
controller finishes. After a run the controller is gone.
-/
namespace CausalProfiler.Script

/-- How a run waits before its nested steps. -/
structure RunPlan where
  waitFor : String
  waitCount : Nat
  timeoutMs : Nat
  sleepUs : Nat

inductive Step where
  | register (tid initial : Nat)
  | unregister (tid : Nat)
  | sample (tid : Nat) (s : Sample)
  | catchUp (tid : Nat)
  | preBlock (tid : Nat)
  | postBlock (tid : Nat) (credited : Bool)
  | intercept (tid : Nat) (op : SyncOp) (succeeds : Bool) (during : List Step)
  | visit (kind : PointKind) (name : String) (n : Nat)
  | selectLine
  | chooseDelay
  | chooseArrival
  | adaptLength (minDelta : Option Nat)
  | beginRound (line : Nat) (delay : Option Nat)
  | finishRound
  | snapshot
  | shutdown
  | holdRound (length : Nat)
  | run (plan : RunPlan) (during : List Step)
  /-- A step whose answer leaves out the named fields. -/
  | hiding (fields : List String) (step : Step)
  /-- A step that cannot be made, with the reason. -/
  | refused (reason : String)

/-- Why a step fails. -/
inductive SessionError where
  | noThread (tid : Nat)
  | noRound
  | noEngine
  | refused (reason : String)
  | fault (f : Fault)

def SessionError.message : SessionError → String
  | .noThread tid => "thread " ++ toString tid ++ " is not registered"
  | .noRound => "no round is running"
  | .noEngine => "the engine was consumed by run"
  | .refused reason => reason
  | .fault f => f.message

/-- The state a step's answer shows. -/
structure View where
  global : Nat
  active : Bool
  running : Bool
  length : Option Nat
  threads : List (Nat × Nat)
  samples : List Nat

mutual

/-- What a step gives. -/
inductive Reply where
  | nothing
  | flag (b : Bool)
  | word (n : Nat)
  | line (id : Option Nat)
  | started (delay arrival : Nat)
  | finished (o : Outcome)
  | snapshot (s : Snapshot) (points : Registry)
  | nested (answers : List Answer)

/-- A step's answer: its outcome, the state after it, the log lines it wrote and the fields
to leave out. -/
inductive Answer where
  | mk (outcome : Except SessionError Reply) (view : View) (log : List String)
      (hidden : List String)

end

/-- A profiler, its controller while it has one, the round in progress, and how many log
records were already answered, on a host. -/
structure Session where
  world : World
  engine : Option Engine
  round : Option Round
  reported : Nat
  /-- Fields every answer leaves out. -/
  hidden : List String
  host : Host

/-- Actions the controller may take while waiting for a pattern; enough for thousands of
rounds. -/
def waitFuel : Nat := 20000

/-- Actions a stopped profiler's controller needs to finish. -/
def finishFuel : Nat := 64

namespace Session

def create (host : Host) (s : Settings) (map : SourceMap) (seed : Nat) (refuses : Bool)
    (hidden : List String) : Except Fault Session := do
  let p := Profiler.create s map
  let e ← Engine.create s p seed
  pure ⟨⟨p, Log.empty refuses, 0⟩, some e, none, 0, hidden, host⟩

def profiler (s : Session) : Profiler := s.world.profiler

def setProfiler (s : Session) (p : Profiler) : Session := { s with world := { s.world with profiler := p } }

def view (s : Session) : View :=
  ⟨s.profiler.global, s.profiler.active, s.profiler.running, s.engine.map (·.length),
    s.profiler.delays, s.profiler.samples⟩

/-- The answer to a step with the given outcome; the log records since the last answer go
with it. -/
def reply (s : Session) (hide : List String) (outcome : Except SessionError Reply) :
    Answer × Session :=
  let lines := (s.world.log.since s.reported).map fun r => r.masked.render
  (.mk outcome s.view lines (s.hidden ++ hide), { s with reported := s.world.log.size })

/-- Runs a controller action, when the controller is still here. -/
def control {α : Type} (s : Session) (act : ControlM α) : Except SessionError α × Session :=
  match s.engine with
  | none => (.error .noEngine, s)
  | some e =>
    match act.run.run ⟨e, s.world⟩ with
    | (.ok a, c) => (.ok a, { s with engine := some c.engine, world := c.world })
    | (.error f, c) => (.error (.fault f), { s with engine := some c.engine, world := c.world })

/-- Applies a profiler operation to a registered thread's slot. -/
def onThread (s : Session) (tid : Nat) (f : Profiler → Nat → Profiler) :
    Except SessionError Reply × Session :=
  match s.profiler.slot? tid with
  | none => (.error (.noThread tid), s)
  | some i => (.ok .nothing, s.setProfiler (f s.profiler i))

/-- Runs a controller action on the round in progress; a missing round is reported before a
missing controller. -/
def onRound {α : Type} (s : Session) (act : Round → ControlM α) : Except SessionError α × Session :=
  match s.round with
  | none => (.error .noRound, s)
  | some r => s.control (act r)

/-- The outcome of a step without nested steps. -/
def simple (s : Session) : Step → Except SessionError Reply × Session
  | .register tid initial =>
    match s.profiler.register tid initial with
    | .error f => (.error (.fault f), s)
    | .ok (slot, p) => (.ok (.flag slot.isSome), s.setProfiler p)
  | .unregister tid => (.ok .nothing, s.setProfiler (s.profiler.unregister tid))
  | .sample tid smp => s.onThread tid fun p i => p.takeSample i smp
  | .catchUp tid => s.onThread tid Profiler.catchUp
  | .preBlock tid => s.onThread tid Profiler.preBlock
  | .postBlock tid credited => s.onThread tid fun p i => p.postBlock i credited
  | .visit kind name n =>
    match s.profiler.points.visit kind name n with
    | some r => (.ok (.flag true), s.setProfiler { s.profiler with points := r })
    | none => (.ok (.flag false), s)
  | .selectLine =>
    let (out, s) := s.control Controller.readyLine
    (out.map .line, s)
  | .chooseDelay =>
    let (out, s) := s.control Controller.chooseDelay
    (out.map .word, s)
  | .chooseArrival =>
    let (out, s) := s.control Controller.chooseArrival
    (out.map .word, s)
  | .adaptLength minDelta =>
    let (out, s) := s.control do
      Controller.adaptLength minDelta
      pure (← get).engine.length
    (out.map .word, s)
  | .beginRound line delay =>
    let (out, s) := s.control do
      let d ← match delay with
        | some d => pure d
        | none => Controller.chooseDelay
      Controller.beginRound line d
    match out with
    | .ok r => (.ok (.started r.delaySize r.arrivalSpeedup), { s with round := some r })
    | .error e => (.error e, s)
  | .finishRound =>
    let (out, s) := s.onRound Controller.finishRound
    match out with
    | .ok o => (.ok (.finished o), { s with round := none })
    | .error e => (.error e, s)
  | .holdRound length =>
    -- a length is a word
    let (out, s) := s.onRound fun r =>
      Controller.holdRoundOn s.host r (min length Word.max) (Nat.min_le_right _ _)
    (out.map fun _ => .nothing, s)
  | .snapshot => (.ok (.snapshot s.profiler.points.save s.profiler.points), s)
  | .shutdown => (.ok .nothing, s.setProfiler s.profiler.shutdown)
  | .refused reason => (.error (.refused reason), s)
  | _ => (.ok .nothing, s)

/-- The outcome of a finished run: its nested answers, or the fault that ended the
controller. -/
def runOutcome (ph : Phase) (r : Reply) : Except SessionError Reply :=
  match ph with
  | .failed f => .error (.fault f)
  | _ => .ok r

/-- Hands the controller to a run: it acts until the log shows the plan's pattern often enough
or the timeout passes, and for the plan's pause after that. -/
def startRun (s : Session) (e : Engine) (plan : RunPlan) : Phase × Controller :=
  let c : Controller := ⟨e, s.world⟩
  let start := c.world.clock
  let timeout := start + plan.timeoutMs * 1000000
  let (w, ph, c) :=
    c.awaitLog s.host plan.waitCount timeout waitFuel (Watch.create plan.waitFor) .starting
  let c := if (w.read c.world.log).reached plan.waitCount then c else c.waitUntil timeout
  let resume := c.world.clock + plan.sleepUs * 1000
  let (ph, c) := c.advance s.host resume waitFuel ph
  (ph, c.waitUntil resume)

mutual

/-- Runs a step and answers it. -/
def exec (s : Session) (hide : List String) : Step → Answer × Session
  | .hiding fields step => exec s (hide ++ fields) step
  | .intercept tid op succeeds during =>
    match s.profiler.slot? tid with
    | none => s.reply hide (.error (.noThread tid))
    | some i =>
      -- the blocking call runs the nested steps on the profiler the hooks hand it
      let ((answers, s), p) := s.profiler.intercept i op
        (fun p => let (answers, s) := execAll (s.setProfiler p) during; ((answers, s), s.profiler))
        fun _ => succeeds
      (s.setProfiler p).reply hide (.ok (.nested answers))
  | .run plan during =>
    match s.engine with
    | none => s.reply hide (.error .noEngine)
    | some e =>
      let s := { s with engine := none }
      if !s.profiler.running then
        let (ph, c) := Controller.advance s.host Word.max finishFuel .starting ⟨e, s.world⟩
        { s with world := c.world }.reply hide (runOutcome ph .nothing)
      else
        let (ph, c) := s.startRun e plan
        let (answers, s) := execAll { s with world := c.world } during
        let s := s.setProfiler s.profiler.shutdown
        let (ph, c) := Controller.advance s.host Word.max finishFuel ph ⟨c.engine, s.world⟩
        { s with world := c.world }.reply hide (runOutcome ph (.nested answers))
  | step =>
    let (outcome, s) := s.simple step
    s.reply hide outcome

/-- Runs steps in order and answers each. -/
def execAll (s : Session) : List Step → List Answer × Session
  | [] => ([], s)
  | step :: rest =>
    let (a, s) := exec s [] step
    let (answers, s) := execAll s rest
    (a :: answers, s)

end

end Session

/-- The answers of a session script on a fresh profiler over a source map, on a host. -/
def runSession (host : Host) (settings : Settings) (map : SourceMap) (seed : Nat)
    (refuses : Bool) (hidden : List String) (steps : List Step) : Except Fault (List Answer) := do
  let s ← Session.create host settings map seed refuses hidden
  pure (Session.execAll s steps).1

end CausalProfiler.Script
