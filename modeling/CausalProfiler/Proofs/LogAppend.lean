import CausalProfiler.Proofs.LogRead
import CausalProfiler.Proofs.Aggregation
/-!
# Reading appended logs

A log may hold several runs, each appended by a new run of the profiled program. Reading a
record either fails or changes the reading in a way that its fields alone decide
(`Reading.step_eq_ok_iff`): a run closes, an experiment opens, a measurement joins the last
experiment, a count or a runtime is raised, or nothing happens. Over this view:

* `Reading.readAll_extends`: records read after a closed run add to what that run read, the
  experiments after its experiments, the runs and the runtime added, the counts merged;
* `logRecords_append`: a log that ends its last line is followed by the lines of the next;
* `ofLog_runtime`: the runtime of a log is the saturating sum, over its runs, of each run's
  largest runtime record;
* `ofLog_append`, `appended_logs_compose`: a log that starts a run, appended to a log whose last
  line is ended, reads as both: experiments in order, runs and runtimes added, counts merged.
-/
namespace CausalProfiler

theorem Word.addSat_assoc (a b c : Nat) :
    Word.addSat (Word.addSat a b) c = Word.addSat a (Word.addSat b c) := by
  simp only [Word.addSat, Nat.min_def]
  split_ifs <;> omega

theorem Word.addSat_le_max (a b : Nat) : Word.addSat a b ≤ Word.max := Nat.min_le_right _ _

theorem Word.addSat_zero {a : Nat} (word : a ≤ Word.max) : Word.addSat a 0 = a :=
  Nat.min_eq_left word

namespace Record

/-- A field read as a number after trimming blanks, as the reader reads numbers. -/
def number? {α : Type} (r : Record) (key : String) (read : String → Option α) : Option α :=
  (r.field? key).bind fun v => read (Text.trimString v)

def word? (r : Record) (key : String) : Option Nat := r.number? key (Number.readNat? Word.max)

end Record

/-- What a record does to a reading, once its fields are read. -/
inductive Change where
  /-- The current run closes and a new one starts. -/
  | closeRun
  /-- An experiment opens. -/
  | openExperiment (x : Experiment)
  /-- A measurement joins the last experiment. -/
  | measure (f : Experiment → Experiment)
  /-- A line's sample count is raised. -/
  | raiseCount (location : String) (count : Nat)
  /-- The current run's runtime is raised. -/
  | raiseRuntime (time : Nat)
  /-- A record of a kind the reader does not know. -/
  | skip

/-- The change a record makes, if its fields read. -/
def Record.change? (r : Record) : Option Change :=
  match r.kind with
  | "startup" => some .closeRun
  | "experiment" => do
    let selected ← r.field? "selected"
    let speedup ← r.number? "speedup" Number.readFloat?
    let duration ← r.word? "duration"
    let samples := (r.word? "selected-samples").getD 0
    some (.openExperiment ⟨selected, speedup, duration, samples, [], []⟩)
  | "throughput-point" | "progress-point" => do
    let name ← r.field? "name"
    let delta ← r.word? "delta"
    some (.measure fun x => { x with throughput := x.throughput ++ [(name, delta)] })
  | "latency-point" => do
    let name ← r.field? "name"
    let arrivals ← r.word? "arrivals"
    let departures ← r.word? "departures"
    let difference ← r.number? "difference"
      (Number.readInt? (-(Nat.pow 2 63 : Int)) (Nat.pow 2 63 - 1 : Nat))
    some (.measure fun x =>
      { x with latency := x.latency ++ [⟨name, arrivals, departures, difference⟩] })
  | "samples" => do
    let location ← r.field? "location"
    let count ← r.word? "count"
    some (.raiseCount location count)
  | "runtime" => (r.word? "time").map .raiseRuntime
  | _ => some .skip

/-- A change made to a reading; a measurement before any experiment fails. -/
def Change.apply (x : Reading) : Change → Option Reading
  | .closeRun => some { x with
      runtime := Word.addSat x.runtime x.runRuntime, runs := x.runs + 1, runRuntime := 0 }
  | .openExperiment e => some { x with latest := e :: x.latest }
  | .measure f => match x.latest with
    | [] => none
    | last :: earlier => some { x with latest := f last :: earlier }
  | .raiseCount location count =>
    some { x with samples := CausalProfiler.raiseCount location count x.samples }
  | .raiseRuntime time => some { x with runRuntime := max x.runRuntime time }
  | .skip => some x

/-- A sequenced reading succeeds exactly when each part succeeds in turn. -/
theorem Except.bind_eq_ok {ε α β : Type} {x : Except ε α} {f : α → Except ε β} {b : β} :
    x >>= f = .ok b ↔ ∃ a, x = .ok a ∧ f a = .ok b := by
  cases x <;> simp [bind, Except.bind]

namespace Entry

variable {e : Entry} {key : String}

theorem text_eq_ok_iff {v : String} : e.text key = .ok v ↔ e.record.field? key = some v := by
  unfold text
  cases e.record.field? key <;> simp

theorem number_eq_ok_iff {α : Type} {read : String → Option α} {a : α} :
    e.number key read = .ok a ↔ e.record.number? key read = some a := by
  unfold number Record.number?
  cases found : e.record.field? key with
  | none => simp [text, found, bind, Except.bind]
  | some v =>
    cases reads : read (Text.trimString v) <;>
      simp [text, found, reads, bind, Except.bind, pure, Except.pure, throw, throwThe,
        MonadExceptOf.throw]

theorem word_eq_ok_iff {n : Nat} : e.word key = .ok n ↔ e.record.word? key = some n :=
  number_eq_ok_iff

theorem float_eq_ok_iff {v : Float} :
    e.float key = .ok v ↔ e.record.number? key Number.readFloat? = some v :=
  number_eq_ok_iff

theorem signedWord_eq_ok_iff {i : Int} : e.signedWord key = .ok i ↔
    e.record.number? key (Number.readInt? (-(Nat.pow 2 63 : Int)) (Nat.pow 2 63 - 1 : Nat)) =
      some i :=
  number_eq_ok_iff

theorem word?_of_word {w : Except ReadError Nat} (read : e.word key = w) :
    e.record.word? key = w.toOption := by
  cases w with
  | ok n => exact word_eq_ok_iff.mp read
  | error err =>
    cases found : e.record.word? key with
    | none => rfl
    | some n => cases read.symm.trans (word_eq_ok_iff.mpr found)

end Entry

namespace Reading

theorem attach_eq_ok_iff {x y : Reading} {e : Entry} {f : Experiment → Experiment} :
    x.attach e f = .ok y ↔ (Change.measure f).apply x = some y := by
  unfold attach Change.apply
  cases x.latest <;> simp

/-- Reading a record succeeds exactly when its fields give a change and the change applies. -/
theorem step_eq_ok_iff {x y : Reading} {e : Entry} :
    x.step e = .ok y ↔ ∃ c, e.record.change? = some c ∧ c.apply x = some y := by
  -- split the reader's match alone: the decoder's match on the same kinds may share its matcher
  unfold step
  split
  all_goals
    rename_i kind
    simp only [Record.change?, kind]
  on_goal 2 =>
    -- an unreadable count of selected samples counts as zero
    rcases samples : e.word "selected-samples" with err | n <;>
      rw [Entry.word?_of_word samples]
  all_goals
    simp [Except.bind_eq_ok, Entry.text_eq_ok_iff, Entry.word_eq_ok_iff, Entry.float_eq_ok_iff,
      Entry.signedWord_eq_ok_iff, attach_eq_ok_iff, pure, Except.pure, Option.bind_eq_some_iff,
      Change.apply, Except.toOption, and_assoc]

/-- Changes keep the sample table's keys ascending. -/
theorem apply_ascending {x z : Reading} {c : Change} (sorted : Ascending x.samples)
    (applied : c.apply x = some z) : Ascending z.samples := by
  cases c with
  | raiseCount location count =>
    simp only [Change.apply, Option.some.injEq] at applied
    rw [← applied]
    exact sorted.raiseCount location count
  | measure f =>
    cases last : x.latest with
    | nil => simp [Change.apply, last] at applied
    | cons e earlier =>
      simp only [Change.apply, last, Option.some.injEq] at applied
      rw [← applied]
      exact sorted
  | closeRun | openExperiment | raiseRuntime | skip =>
    simp only [Change.apply, Option.some.injEq] at applied
    rw [← applied]
    exact sorted

/-- Reads records in turn by the changes they make. -/
def readAll (x : Reading) (rs : List Record) : Option Reading :=
  rs.foldlM (fun x r => r.change?.bind (Change.apply x)) x

theorem readAll_nil (x : Reading) : readAll x [] = some x := rfl

theorem readAll_cons {x : Reading} {r : Record} {rs : List Record} :
    readAll x (r :: rs) = (r.change?.bind (Change.apply x)).bind fun z => readAll z rs := rfl

/-- Reading numbered lines succeeds exactly when reading their records by their changes does:
where a record lies in the log matters only to the failures. -/
theorem foldlM_step_eq_ok_iff {es : List Entry} {x y : Reading} :
    es.foldlM step x = .ok y ↔ readAll x (es.map Entry.record) = some y := by
  induction es generalizing x with
  | nil => simp [readAll_nil, pure, Except.pure]
  | cons e es ih =>
    simp only [List.foldlM_cons, Except.bind_eq_ok, step_eq_ok_iff, ih, List.map_cons, readAll_cons,
      Option.bind_eq_some_iff]

theorem readAll_append {x : Reading} {rs ss : List Record} :
    readAll x (rs ++ ss) = (readAll x rs).bind fun y => readAll y ss := by
  simp only [readAll, List.foldlM_append]
  rfl

theorem readAll_ascending {rs : List Record} {x y : Reading} (sorted : Ascending x.samples)
    (read : readAll x rs = some y) : Ascending y.samples := by
  induction rs generalizing x with
  | nil =>
    cases read
    exact sorted
  | cons r rs ih =>
    simp only [readAll_cons, Option.bind_eq_some_iff] at read
    obtain ⟨z, ⟨c, -, applied⟩, rest⟩ := read
    exact ih (apply_ascending sorted applied) rest

/-- How reading records after a closed run `x` stands to reading the same records from the
start: `y` is read from the start and `y'` after `x`. The experiments follow `x`'s, the runs and
the closed runtime add to `x`'s, the open run is the same, and each line's count is the larger of
its two counts. -/
structure Extends (x y y' : Reading) : Prop where
  latest : y'.latest = y.latest ++ x.latest
  runs : y'.runs = x.runs + y.runs
  runtime : y'.runtime = Word.addSat (Word.addSat x.runtime x.runRuntime) y.runtime
  runRuntime : y'.runRuntime = y.runRuntime
  ascending : Ascending y.samples
  ascending' : Ascending y'.samples
  samples : ∀ name, y'.samples.lookup name =
    Option.merge max (x.samples.lookup name) (y.samples.lookup name)

/-- A run closed from the start and from `x` begins the relation. -/
theorem Extends.closed {x : Reading} (sorted : Ascending x.samples) :
    Extends x { start with runs := 1 }
      { x with runtime := Word.addSat x.runtime x.runRuntime, runs := x.runs + 1,
               runRuntime := 0 } where
  latest := by simp [start]
  runs := rfl
  runtime := (Word.addSat_zero (Word.addSat_le_max _ _)).symm
  runRuntime := rfl
  ascending := List.Pairwise.nil
  ascending' := sorted
  samples name := by cases x.samples.lookup name <;> rfl

/-- One change keeps the relation. -/
theorem Extends.apply {x y y' z : Reading} {c : Change} (ext : Extends x y y')
    (applied : c.apply y = some z) : ∃ z', c.apply y' = some z' ∧ Extends x z z' := by
  cases c with
  | closeRun =>
    simp only [Change.apply, Option.some.injEq] at applied
    subst applied
    refine ⟨_, rfl, ⟨ext.latest, ?_, ?_, rfl, ext.ascending, ext.ascending', ext.samples⟩⟩
    · simp only [ext.runs]
      omega
    · simp only [ext.runtime, ext.runRuntime, Word.addSat_assoc]
  | openExperiment e =>
    simp only [Change.apply, Option.some.injEq] at applied
    subst applied
    exact ⟨_, rfl, ⟨by simp [ext.latest], ext.runs, ext.runtime, ext.runRuntime, ext.ascending,
      ext.ascending', ext.samples⟩⟩
  | measure f =>
    -- the last experiment read from the start is the last one read after `x` too
    cases last : y.latest with
    | nil => simp [Change.apply, last] at applied
    | cons e earlier =>
      simp only [Change.apply, last, Option.some.injEq] at applied
      subst applied
      refine ⟨{ y' with latest := f e :: (earlier ++ x.latest) },
        by simp only [Change.apply, ext.latest, last, List.cons_append],
        ⟨by simp, ext.runs, ext.runtime, ext.runRuntime, ext.ascending, ext.ascending',
          ext.samples⟩⟩
  | raiseCount location count =>
    simp only [Change.apply, Option.some.injEq] at applied
    subst applied
    refine ⟨_, rfl, ⟨ext.latest, ext.runs, ext.runtime, ext.runRuntime,
      ext.ascending.raiseCount location count, ext.ascending'.raiseCount location count, ?_⟩⟩
    intro name
    simp only [lookup_raiseCount ext.ascending, lookup_raiseCount ext.ascending', ext.samples]
    by_cases named : name = location
    · simp only [if_pos named]
      cases x.samples.lookup name <;> cases y.samples.lookup name <;>
        simp [Option.merge, Nat.max_assoc]
    · simp only [if_neg named]
  | raiseRuntime time =>
    simp only [Change.apply, Option.some.injEq] at applied
    subst applied
    exact ⟨_, rfl, ⟨ext.latest, ext.runs, ext.runtime, by simp [ext.runRuntime], ext.ascending,
      ext.ascending', ext.samples⟩⟩
  | skip =>
    simp only [Change.apply, Option.some.injEq] at applied
    subst applied
    exact ⟨y', rfl, ext⟩

/-- Records read after a closed run add to what that run read, as they read from the start. -/
theorem readAll_extends {rs : List Record} {x y y' z : Reading} (ext : Extends x y y')
    (read : readAll y rs = some z) : ∃ z', readAll y' rs = some z' ∧ Extends x z z' := by
  induction rs generalizing y y' with
  | nil =>
    cases read
    exact ⟨y', rfl, ext⟩
  | cons r rs ih =>
    simp only [readAll_cons, Option.bind_eq_some_iff] at read ⊢
    obtain ⟨w, ⟨c, found, applied⟩, rest⟩ := read
    obtain ⟨w', applied', extended⟩ := ext.apply applied
    obtain ⟨z', read', final⟩ := ih extended rest
    exact ⟨z', ⟨w', ⟨c, found, applied'⟩, read'⟩, final⟩

end Reading

namespace Text

/-- The lines of a text that ends in `c`: every piece between newlines but the last, and the last
piece too unless `c` is the newline that ends it. -/
theorem lines_of_getLast? {cs : List Char} {c : Char} (last : cs.getLast? = some c) :
    lines cs = (cs.splitOn '\n').dropLast.map dropReturn ++
      if c = '\n' then [] else (cs.splitOn '\n').getLast?.toList := by
  unfold lines
  rw [last]
  split <;> simp_all

/-- A text whose last line is ended has the lines of what follows after its own. -/
theorem lines_append_of_ended {a b : List Char} (ended : a.getLast? = some '\n') :
    lines (a ++ b) = lines a ++ lines b := by
  obtain ⟨front, rfl⟩ := List.getLast?_eq_some_iff.mp ended
  have pieces : ∀ b,
      (front ++ ['\n'] ++ b).splitOn '\n' = front.splitOn '\n' ++ b.splitOn '\n' := by
    intro b
    rw [List.append_assoc, List.singleton_append, List.splitOn_append_cons_self]
  have first : lines (front ++ ['\n']) = (front.splitOn '\n').map dropReturn := by
    rw [lines_of_getLast? ended, ← List.append_nil (front ++ ['\n']), pieces]
    simp
  rcases List.eq_nil_or_concat b with rfl | ⟨body, c, rfl⟩
  · simp [lines]
  · rw [List.concat_eq_append]
    have last : (front ++ ['\n'] ++ (body ++ [c])).getLast? = some c := by
      rw [List.getLast?_append_of_ne_nil _ (by simp), List.getLast?_concat]
    rw [lines_of_getLast? last, lines_of_getLast? (List.getLast?_concat (l := body) (a := c)),
      pieces, first,
      List.dropLast_append_of_ne_nil (List.splitOn_ne_nil _ _),
      List.getLast?_append_of_ne_nil _ (List.splitOn_ne_nil _ _)]
    simp

end Text

/-- The records of a log: its non-blank lines, in order. -/
def logRecords (text : String) : List Record := (entries text).map Entry.record

theorem ofLog_eq_ok_iff {text : String} {p : Profile} :
    Profile.ofLog text = .ok p ↔
      ∃ y, Reading.start.readAll (logRecords text) = some y ∧ y.finish = p := by
  unfold Profile.ofLog
  cases read : (entries text).foldlM Reading.step Reading.start with
  | error err =>
    have failed : Reading.start.readAll (logRecords text) = none := by
      cases h : Reading.start.readAll (logRecords text) with
      | none => rfl
      | some y => cases read.symm.trans (Reading.foldlM_step_eq_ok_iff.mpr h)
    simp [Except.map, failed]
  | ok y =>
    have read' : Reading.start.readAll (logRecords text) = some y :=
      Reading.foldlM_step_eq_ok_iff.mp read
    simp [Except.map, read']

/-- A non-blank line as a record. -/
def recordOf? (line : String) : Option Record :=
  if (Text.trimString line).isEmpty then none else some (Record.ofLine line)

theorem logRecords_eq (text : String) :
    logRecords text = (Text.linesOf text).filterMap recordOf? := by
  unfold logRecords entries
  rw [List.map_filterMap]
  have numberless : ∀ line : String × Nat, (if (Text.trimString line.1).isEmpty then none else
      some (⟨line.2, Record.ofLine line.1⟩ : Entry)).map Entry.record = recordOf? line.1 := by
    intro line
    unfold recordOf?
    split <;> rfl
  simp only [numberless]
  conv_rhs => rw [← List.zipIdx_map_fst 1 (Text.linesOf text), List.filterMap_map]
  rw [Function.comp_def]

/-- A log whose last line is ended is followed, in a log that continues it, by the records of
what continues it. -/
theorem logRecords_append {a b : String} (ended : a = "" ∨ a.toList.getLast? = some '\n') :
    logRecords (a ++ b) = logRecords a ++ logRecords b := by
  rcases ended with rfl | ended
  · simp [logRecords_eq, Text.linesOf, Text.lines]
  · simp only [logRecords_eq, Text.linesOf, String.toList_append,
      Text.lines_append_of_ended ended, List.map_append, List.filterMap_append]

/-! ## The runtime of a log -/

namespace Record

/-- Whether a record starts a run. -/
def isStartup (r : Record) : Bool := r.kind == "startup"

/-- The time a runtime record gives, as the reader reads it; other records give none. -/
def runtime? (r : Record) : Option Nat := if r.kind = "runtime" then r.word? "time" else none

end Record

/-- The runs of a log's records: the records before the first startup record, then the records
after each startup record up to the next. -/
def runsOf (rs : List Record) : List (List Record) := rs.splitOnP Record.isStartup

/-- The largest of `m` and the times a run's runtime records give. -/
def runtimeFrom (m : Nat) (run : List Record) : Nat := (run.filterMap Record.runtime?).foldl max m

namespace Change

/-- Whether a change closes the run. -/
def closes : Change → Bool
  | closeRun => true
  | _ => false

/-- The time a change raises the run's runtime to. -/
def time? : Change → Option Nat
  | raiseRuntime t => some t
  | _ => none

/-- A change moves the runtimes only by closing the run or raising its runtime. -/
theorem apply_runtimes {c : Change} {x z : Reading} (applied : c.apply x = some z) :
    if c.closes then z.runtime = Word.addSat x.runtime x.runRuntime ∧ z.runRuntime = 0
    else z.runtime = x.runtime ∧
      z.runRuntime = (c.time?.map (max x.runRuntime)).getD x.runRuntime := by
  cases c with
  | measure f =>
    cases last : x.latest with
    | nil => simp [apply, last] at applied
    | cons e earlier =>
      simp only [apply, last, Option.some.injEq] at applied
      simp [← applied, closes, time?]
  | closeRun | openExperiment | raiseCount | raiseRuntime | skip =>
    simp only [apply, Option.some.injEq] at applied
    simp [← applied, closes, time?]

end Change

namespace Record

/-- Only a startup record closes the run. -/
theorem change?_closes (r : Record) :
    r.change?.map Change.closes = r.change?.map fun _ => r.isStartup := by
  unfold change?
  split
  -- a kind the reader does not know is no startup record
  case h_8 => simp_all [isStartup, Change.closes]
  all_goals
    rename_i kind
    simp [Option.map_bind, Function.comp_def, kind, isStartup, Change.closes]

/-- Only a runtime record raises the run's runtime, to the time it gives. -/
theorem change?_time (r : Record) :
    r.change?.map Change.time? = r.change?.map fun _ => r.runtime? := by
  unfold change?
  split
  case h_7 kind =>
    cases time : r.word? "time" <;> simp [kind, runtime?, Change.time?, time]
  case h_8 => simp_all [runtime?, Change.time?]
  all_goals
    rename_i kind
    simp [Option.map_bind, Function.comp_def, kind, runtime?, Change.time?]

theorem change?_runtimes {r : Record} {c : Change} (found : r.change? = some c) :
    c.closes = r.isStartup ∧ c.time? = r.runtime? := by
  have closes := r.change?_closes
  have time := r.change?_time
  rw [found] at closes time
  simp only [Option.map_some, Option.some.injEq] at closes time
  exact ⟨closes, time⟩

end Record

theorem runsOf_cons (r : Record) (rs : List Record) :
    runsOf (r :: rs) = if r.isStartup then [] :: runsOf rs else (runsOf rs).modifyHead (r :: ·) :=
  List.splitOnP_cons_eq_if_modifyHead r rs

theorem runtimeFrom_single (m : Nat) (r : Record) :
    runtimeFrom m [r] = (r.runtime?.map (max m)).getD m := by
  unfold runtimeFrom
  cases time : r.runtime? <;> simp [time]

theorem runtimeFrom_cons (m : Nat) (r : Record) (run : List Record) :
    runtimeFrom m (r :: run) = runtimeFrom (runtimeFrom m [r]) run := by
  unfold runtimeFrom
  cases time : r.runtime? <;> simp [time]

/-- The runtimes of the runs of some records read while a run with runtime `m` is open: the open
run goes on into the first of them. -/
def runtimesFrom (m : Nat) (rs : List Record) : List Nat :=
  match runsOf rs with
  | [] => []
  | first :: rest => runtimeFrom m first :: rest.map (runtimeFrom 0)

theorem runtimesFrom_zero (rs : List Record) :
    runtimesFrom 0 rs = (runsOf rs).map (runtimeFrom 0) := by
  unfold runtimesFrom
  cases runsOf rs <;> rfl

theorem runtimesFrom_cons (m : Nat) (r : Record) (rs : List Record) :
    runtimesFrom m (r :: rs) =
      if r.isStartup then m :: runtimesFrom 0 rs else runtimesFrom (runtimeFrom m [r]) rs := by
  obtain ⟨first, rest, split⟩ :=
    List.exists_cons_of_ne_nil (List.splitOnP_ne_nil Record.isStartup rs)
  have runs : runsOf rs = first :: rest := split
  by_cases start : r.isStartup
  · simp only [runtimesFrom, runsOf_cons, if_pos start, runs, List.map_cons]
    rfl
  · simp only [runtimesFrom, runsOf_cons, if_neg start, runs, List.modifyHead_cons]
    rw [runtimeFrom_cons]

/-- Reading records closes runs into the total and raises the open run's runtime: what the
reading would finish with is the saturating sum of the runtimes of the runs read. -/
theorem Reading.readAll_runtime {rs : List Record} {x y : Reading} (read : x.readAll rs = some y) :
    Word.addSat y.runtime y.runRuntime =
      (runtimesFrom x.runRuntime rs).foldl Word.addSat x.runtime := by
  induction rs generalizing x with
  | nil =>
    cases read
    rfl
  | cons r rs ih =>
    simp only [readAll_cons, Option.bind_eq_some_iff] at read
    obtain ⟨w, ⟨c, found, applied⟩, rest⟩ := read
    obtain ⟨closes, time⟩ := Record.change?_runtimes found
    have moved := Change.apply_runtimes applied
    rw [ih rest, runtimesFrom_cons]
    by_cases start : r.isStartup
    · rw [closes, if_pos start] at moved
      rw [if_pos start, moved.1, moved.2, List.foldl_cons]
    · rw [closes, if_neg start, time] at moved
      rw [if_neg start, moved.1, moved.2, runtimeFrom_single]

/-- The runtime of a log is the saturating sum, over the runs its startup records delimit, of
each run's largest runtime record, zero for a run without one. -/
theorem ofLog_runtime {text : String} {p : Profile} (read : Profile.ofLog text = .ok p) :
    p.runtime = Word.sumSat ((runsOf (logRecords text)).map (runtimeFrom 0)) := by
  obtain ⟨y, readY, rfl⟩ := ofLog_eq_ok_iff.mp read
  rw [Word.sumSat, ← runtimesFrom_zero]
  exact Reading.readAll_runtime readY

/-- A startup record closes the run. -/
theorem Record.change?_startup {r : Record} (startup : r.kind = "startup") :
    r.change? = some .closeRun := by
  simp [change?, startup]

/-- Two logs read one after the other: the first ends its last line and the second starts with
a run. Their concatenation reads as both, the experiments of the first before those of the
second, the runs and the runtimes added (the runtime saturating at the largest word) and every
line's sample count the larger of its counts. -/
theorem ofLog_append {a b : String} {p q : Profile} (ended : a = "" ∨ a.toList.getLast? = some '\n')
    (startsRun : (logRecords b).head?.map Record.kind = some "startup")
    (readA : Profile.ofLog a = .ok p) (readB : Profile.ofLog b = .ok q) :
    ∃ r, Profile.ofLog (a ++ b) = .ok r ∧ r.experiments = p.experiments ++ q.experiments ∧
      r.runs = p.runs + q.runs ∧ r.runtime = min (p.runtime + q.runtime) Word.max ∧
      Ascending r.samples ∧
      ∀ name, r.samples.lookup name =
        Option.merge max (p.samples.lookup name) (q.samples.lookup name) := by
  obtain ⟨x, readX, rfl⟩ := ofLog_eq_ok_iff.mp readA
  obtain ⟨y, readY, rfl⟩ := ofLog_eq_ok_iff.mp readB
  obtain ⟨first, rest, records, startup⟩ :
      ∃ first rest, logRecords b = first :: rest ∧ first.kind = "startup" := by
    cases split : logRecords b with
    | nil => simp [split] at startsRun
    | cons first rest =>
      simp only [split, List.head?_cons, Option.map_some, Option.some.injEq] at startsRun
      exact ⟨first, rest, rfl, startsRun⟩
  have closes := Record.change?_startup startup
  -- `b` read from the start closes an empty run first; read after `a` it closes `a`'s last run
  have readRest : Reading.start.readAll (first :: rest) =
      { Reading.start with runs := 1 }.readAll rest := by
    rw [Reading.readAll_cons, closes]
    rfl
  rw [records, readRest] at readY
  have sorted := Reading.readAll_ascending (show Ascending Reading.start.samples from .nil) readX
  obtain ⟨z, readZ, ext⟩ := Reading.readAll_extends (Reading.Extends.closed sorted) readY
  refine ⟨z.finish, ofLog_eq_ok_iff.mpr ⟨z, ?_, rfl⟩, ?_, ext.runs, ?_, ext.ascending', ext.samples⟩
  · rw [logRecords_append ended, records, Reading.readAll_append, readX, Option.bind_some,
      Reading.readAll_cons, closes]
    exact readZ
  · simp [Reading.finish, ext.latest]
  · simp only [Reading.finish, ext.runtime, ext.runRuntime]
    rw [Word.addSat_assoc (Word.addSat x.runtime x.runRuntime)]
    rfl

/-- Appending a log that starts a run to a log whose last line is ended composes their profiles;
and the runtime of any log is the saturating sum of its runs' largest runtime records. -/
theorem appended_logs_compose :
    (∀ {a b : String} {p q : Profile}, (a = "" ∨ a.toList.getLast? = some '\n') →
      (logRecords b).head?.map Record.kind = some "startup" →
      Profile.ofLog a = .ok p → Profile.ofLog b = .ok q →
      ∃ r, Profile.ofLog (a ++ b) = .ok r ∧ r.experiments = p.experiments ++ q.experiments ∧
        r.runs = p.runs + q.runs ∧ r.runtime = min (p.runtime + q.runtime) Word.max ∧
        Ascending r.samples ∧
        ∀ name, r.samples.lookup name =
          Option.merge max (p.samples.lookup name) (q.samples.lookup name)) ∧
    ∀ {text : String} {p : Profile}, Profile.ofLog text = .ok p →
      p.runtime = Word.sumSat ((runsOf (logRecords text)).map (runtimeFrom 0)) :=
  ⟨ofLog_append, ofLog_runtime⟩

/-- Two one-run logs, each marking a runtime and counting a line: appended, they read as two runs
of runtime 12 with the larger count, and the first log's runtime is that of its one run. -/
theorem two_runs_compose :
    (Profile.ofLog "startup\nruntime\ttime=5\nsamples\tlocation=a.rs:1\tcount=3\n" =
        .ok ⟨[], [("a.rs:1", 3)], 5, 1⟩ ∧
      Profile.ofLog "startup\nruntime\ttime=7\nsamples\tlocation=a.rs:1\tcount=2\n" =
        .ok ⟨[], [("a.rs:1", 2)], 7, 1⟩) ∧
    (∃ r, Profile.ofLog ("startup\nruntime\ttime=5\nsamples\tlocation=a.rs:1\tcount=3\n" ++
        "startup\nruntime\ttime=7\nsamples\tlocation=a.rs:1\tcount=2\n") = .ok r ∧
      r.experiments = [] ++ [] ∧ r.runs = 1 + 1 ∧ r.runtime = min (5 + 7) Word.max ∧
      Ascending r.samples ∧ ∀ name, r.samples.lookup name =
        Option.merge max ([("a.rs:1", 3)].lookup name) ([("a.rs:1", 2)].lookup name)) ∧
    5 = Word.sumSat ((runsOf (logRecords
      "startup\nruntime\ttime=5\nsamples\tlocation=a.rs:1\tcount=3\n")).map (runtimeFrom 0)) := by
  have readFirst : Profile.ofLog "startup\nruntime\ttime=5\nsamples\tlocation=a.rs:1\tcount=3\n" =
      .ok ⟨[], [("a.rs:1", 3)], 5, 1⟩ := rfl
  have readSecond : Profile.ofLog "startup\nruntime\ttime=7\nsamples\tlocation=a.rs:1\tcount=2\n" =
      .ok ⟨[], [("a.rs:1", 2)], 7, 1⟩ := rfl
  exact ⟨⟨readFirst, readSecond⟩,
    appended_logs_compose.1 (.inr rfl) rfl readFirst readSecond,
    appended_logs_compose.2 readFirst⟩

end CausalProfiler
