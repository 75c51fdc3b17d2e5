import CausalProfiler.Profile.Basic
import CausalProfiler.Profile.Record
import CausalProfiler.Text.Lines
import CausalProfiler.Number.Read
import CausalProfiler.Text.Quoted
/-!
Reading a profile log. Blank lines are skipped but counted; every other line is a record, and
only six kinds mean anything:

* `startup` closes the previous run: its runtime is added to the total and the run count grows;
* `experiment` opens an experiment (`selected`, `speedup`, `duration`, and `selected-samples`,
  which is zero when absent or unreadable);
* `throughput-point` (also written `progress-point`) and `latency-point` add a measurement to
  the last experiment;
* `samples` raises the recorded count of a line to at least the given count;
* `runtime` raises the current run's runtime to at least the given time.

Numbers are read after trimming blanks; names are taken as written. The first failure stops the
reading, and its line is reported.
-/
namespace CausalProfiler

/-- The message of a read failure. -/
def ReadError.message : ReadError → String
  | .missingField line record field =>
    s!"line {line}: missing field `{field}` in {record} record"
  | .invalidNumber line field value =>
    s!"line {line}: invalid value " ++ Text.quoted value ++ s!" for `{field}`"
  | .orphanPoint line record => s!"line {line}: {record} record appears before any experiment"

/-- A record together with its line number, as the reader consults it. -/
structure Entry where
  line : Nat
  record : Record

namespace Entry

/-- A field's text as written. -/
def text (e : Entry) (key : String) : Except ReadError String :=
  match e.record.field? key with
  | some v => .ok v
  | none => .error (.missingField e.line e.record.kind key)

/-- A field read after trimming blanks by `read`. -/
def number {α : Type} (e : Entry) (key : String) (read : String → Option α) :
    Except ReadError α := do
  let raw ← e.text key
  match read (Text.trimString raw) with
  | some v => pure v
  | none => throw (.invalidNumber e.line key raw)

def word (e : Entry) (key : String) : Except ReadError Nat := e.number key (Number.readNat? Word.max)

def signedWord (e : Entry) (key : String) : Except ReadError Int :=
  e.number key (Number.readInt? (-(Nat.pow 2 63 : Int)) (Nat.pow 2 63 - 1 : Nat))

def float (e : Entry) (key : String) : Except ReadError Float := e.number key Number.readFloat?

end Entry

/-- A profile being read: the experiments so far, the latest first so that the one that point
records belong to is at hand, the other parts of the profile so far, and the runtime of the
current run. -/
structure Reading where
  latest : List Experiment
  samples : List (String × Nat)
  runtime : Nat
  runs : Nat
  runRuntime : Nat

/-- Nothing read yet. -/
def Reading.start : Reading := ⟨[], [], 0, 0, 0⟩

/-- The profile read, once the last run is closed. -/
def Reading.finish (r : Reading) : Profile :=
  ⟨r.latest.reverse, r.samples, Word.addSat r.runtime r.runRuntime, r.runs⟩

/-- Adds a measurement to the last experiment, which must exist. -/
def Reading.attach (r : Reading) (e : Entry) (f : Experiment → Experiment) : Except ReadError Reading :=
  match r.latest with
  | [] => .error (.orphanPoint e.line e.record.kind)
  | x :: earlier => .ok { r with latest := f x :: earlier }

/-- Reads one record. -/
def Reading.step (r : Reading) (e : Entry) : Except ReadError Reading :=
  match e.record.kind with
  | "startup" =>
    .ok { r with runtime := Word.addSat r.runtime r.runRuntime, runs := r.runs + 1, runRuntime := 0 }
  | "experiment" => do
    let selected ← e.text "selected"
    let speedup ← e.float "speedup"
    let duration ← e.word "duration"
    let selectedSamples := match e.word "selected-samples" with
      | .ok n => n
      | .error _ => 0
    let x : Experiment := ⟨selected, speedup, duration, selectedSamples, [], []⟩
    pure { r with latest := x :: r.latest }
  | "throughput-point" | "progress-point" => do
    let name ← e.text "name"
    let delta ← e.word "delta"
    r.attach e fun x => { x with throughput := x.throughput ++ [(name, delta)] }
  | "latency-point" => do
    let name ← e.text "name"
    let arrivals ← e.word "arrivals"
    let departures ← e.word "departures"
    let difference ← e.signedWord "difference"
    r.attach e fun x => { x with latency := x.latency ++ [⟨name, arrivals, departures, difference⟩] }
  | "samples" => do
    let location ← e.text "location"
    let count ← e.word "count"
    pure { r with samples := raiseCount location count r.samples }
  | "runtime" => do
    let time ← e.word "time"
    pure { r with runRuntime := max r.runRuntime time }
  | _ => .ok r

/-- The non-blank lines of a text as records, numbered from one. -/
def entries (text : String) : List Entry :=
  ((Text.linesOf text).zipIdx 1).filterMap fun (line, n) =>
    if (Text.trimString line).isEmpty then none else some ⟨n, Record.ofLine line⟩

/-- Reads a whole log. -/
def Profile.ofLog (text : String) : Except ReadError Profile :=
  ((entries text).foldlM Reading.step Reading.start).map Reading.finish

end CausalProfiler
