import CausalProfiler.Host.Signals
import Mathlib.Logic.Relation
import Mathlib.Tactic.SplitIfs
/-!
# The program cannot take `SIGPROF` away

The profiler samples on `SIGPROF`, which must stay unblocked and run the sample handler. The
interposed signal functions defend both against the profiled program: a request to install
another handler for `SIGPROF` is dropped, `signal` never reaches `SIGPROF`, and a mask call that
blocks or sets a mask has `SIGPROF` removed from its set.

What the C library's functions do is a parameter, so the defence holds under what POSIX
promises of them (`Posix`): `sigaction` and `signal` change only the action of the signal they
are given, `sigaction` only to the action it was given, and the mask functions block only
signals that were blocked or that they were asked to block. From a state where the profiler
holds `SIGPROF`, every sequence of interposed calls ends in one where it still does
(`sigprof_stays_with_profiler`). The signal waits never ask the C library about a set holding
`SIGPROF`: what the C function answers for such sets cannot change the interposed wait.
-/
namespace CausalProfiler.Host.Signals

/-- What POSIX promises of `sigaction`: it leaves the blocked signals alone, and changes a
signal's action only when it is the signal asked for and a new action is given, to that
action. -/
def SigactionFrame
    (f : Nat → Option SigAction → SignalState → Int × Option SigAction × SignalState) : Prop :=
  ∀ signum act s, (f signum act s).2.2.blocked = s.blocked ∧
    ∀ sig, (f signum act s).2.2.actions sig = s.actions sig ∨
      sig = signum ∧ act = some ((f signum act s).2.2.actions sig)

/-- What POSIX promises of `signal`: it leaves the blocked signals and the other signals'
actions alone. -/
def SignalFrame (f : Nat → Disposition → SignalState → Option Disposition × SignalState) :
    Prop :=
  ∀ signum handler s, (f signum handler s).2.blocked = s.blocked ∧
    ∀ sig, sig ≠ signum → (f signum handler s).2.actions sig = s.actions sig

/-- What POSIX promises of a mask function: it changes no action, and blocks only signals that
were blocked or that a call other than an unblock named in its set. -/
def MaskFrame (f : MaskFn) : Prop :=
  ∀ how set s, (f how set s).2.2.actions = s.actions ∧
    ∀ sig ∈ (f how set s).2.2.blocked,
      sig ∈ s.blocked ∨ how ≠ sigUnblock ∧ ∃ l, set = some l ∧ sig ∈ l

/-- The C library's state-changing signal functions, where present, do what POSIX says. -/
structure Posix (real : RealSignals) : Prop where
  sigaction : ∀ f ∈ real.sigaction, SigactionFrame f
  signal : ∀ f ∈ real.signal, SignalFrame f
  sigprocmask : ∀ f ∈ real.sigprocmask, MaskFrame f
  pthreadSigmask : ∀ f ∈ real.pthreadSigmask, MaskFrame f

/-- The profiler holds `SIGPROF`: it is not blocked, and it runs the handler at `onSample`. -/
def HoldsSigprof (onSample : Nat) (s : SignalState) : Prop :=
  sigprof ∉ s.blocked ∧ (s.actions sigprof).disposition = .handler onSample

/-- One call the program makes to an interposed function that may change the signal state. -/
inductive Call (real : RealSignals) (onSample : Nat) : SignalState → SignalState → Prop
  | sigaction (signum : Nat) (act : Option SigAction) (s : SignalState) :
      Call real onSample s (sigaction real onSample signum act s).2.2
  | signal (signum : Nat) (handler : Disposition) (s : SignalState) :
      Call real onSample s (signal real signum handler s).2
  | sigprocmask (how : Int) (set : Option (List Nat)) (s : SignalState) :
      Call real onSample s (sigprocmask real how set s).2.2
  | pthreadSigmask (how : Int) (set : Option (List Nat)) (s : SignalState) :
      Call real onSample s (pthreadSigmask real how set s).2.2

/-- Two C functions taking a signal set that answer alike for every set without `SIGPROF`. -/
def AgreeOffSigprof {β : Type} (f g : List Nat → β) : Prop :=
  ∀ set, sigprof ∉ set → f set = g set

@[simp] theorem mem_withoutSigprof {sig : Nat} {set : List Nat} :
    sig ∈ withoutSigprof set ↔ sig ∈ set ∧ sig ≠ sigprof := by
  simp [withoutSigprof]

theorem sigprof_not_mem_withoutSigprof (set : List Nat) : sigprof ∉ withoutSigprof set := by
  simp

section Holds

variable {real : RealSignals} {onSample : Nat} {s : SignalState}

/-- A state with the same blocked signals and the same `SIGPROF` disposition. -/
theorem HoldsSigprof.of_same {t : SignalState} (start : HoldsSigprof onSample s)
    (blocked : t.blocked = s.blocked)
    (action : (t.actions sigprof).disposition = (s.actions sigprof).disposition) :
    HoldsSigprof onSample t := by
  refine ⟨?_, ?_⟩
  · rw [blocked]; exact start.1
  · rw [action]; exact start.2

theorem HoldsSigprof.missing (start : HoldsSigprof onSample s) :
    HoldsSigprof onSample s.missing :=
  start

theorem sigaction_holds (posix : Posix real) (start : HoldsSigprof onSample s)
    (signum : Nat) (act : Option SigAction) :
    HoldsSigprof onSample (sigaction real onSample signum act s).2.2 := by
  unfold sigaction
  split_ifs with dropped
  · exact start
  cases found : real.sigaction with
  | none => exact start.missing
  | some f =>
    obtain ⟨blocked, actions⟩ := posix.sigaction f found signum act s
    refine start.of_same blocked ?_
    rcases actions sigprof with same | ⟨rfl, installed⟩
    · rw [same]
    -- only the sample handler itself is let through to `SIGPROF`
    · have kept : replacesSampleHandler onSample act = false := by simpa using dropped
      rw [installed] at kept
      simpa [replacesSampleHandler, start.2] using kept

theorem signal_holds (posix : Posix real) (start : HoldsSigprof onSample s)
    (signum : Nat) (handler : Disposition) :
    HoldsSigprof onSample (signal real signum handler s).2 := by
  unfold signal
  split_ifs with refused
  · exact start
  cases found : real.signal with
  | none => exact start.missing
  | some f =>
    obtain ⟨blocked, others⟩ := posix.signal f found signum handler s
    exact start.of_same blocked (by rw [others sigprof (Ne.symm refused)])

/-- A mask call whose set, when it may block, lacks `SIGPROF`. -/
theorem MaskFrame.holds {f : MaskFn} (frame : MaskFrame f) (start : HoldsSigprof onSample s)
    {how : Int} {set : Option (List Nat)}
    (spared : ∀ l, set = some l → how ≠ sigUnblock → sigprof ∉ l) :
    HoldsSigprof onSample (f how set s).2.2 := by
  obtain ⟨actions, blocked⟩ := frame how set s
  refine ⟨fun held => ?_, by rw [actions]; exact start.2⟩
  rcases blocked sigprof held with before | ⟨blocking, l, named, member⟩
  · exact start.1 before
  · exact spared l named blocking member

theorem mask_holds {f : MaskFn} (frame : MaskFrame f) (start : HoldsSigprof onSample s)
    (how : Int) (set : Option (List Nat)) :
    HoldsSigprof onSample (mask f how set s).2.2 := by
  unfold mask
  cases set with
  | none => exact frame.holds start (fun _ named => absurd named.symm (Option.some_ne_none _))
  | some l =>
    dsimp only
    split_ifs with unblocking
    · exact frame.holds start (fun _ _ blocking => absurd unblocking blocking)
    · exact frame.holds start (fun _ named _ => by
        cases named; exact sigprof_not_mem_withoutSigprof l)

theorem sigprocmask_holds (posix : Posix real) (start : HoldsSigprof onSample s)
    (how : Int) (set : Option (List Nat)) :
    HoldsSigprof onSample (sigprocmask real how set s).2.2 := by
  unfold sigprocmask
  cases found : real.sigprocmask with
  | none => exact start.missing
  | some f => exact mask_holds (posix.sigprocmask f found) start how set

theorem pthreadSigmask_holds (posix : Posix real) (start : HoldsSigprof onSample s)
    (how : Int) (set : Option (List Nat)) :
    HoldsSigprof onSample (pthreadSigmask real how set s).2.2 := by
  unfold pthreadSigmask
  cases found : real.pthreadSigmask with
  | none => exact start
  | some f => exact mask_holds (posix.pthreadSigmask f found) start how set

theorem Call.holds (posix : Posix real) {t : SignalState} (call : Call real onSample s t)
    (start : HoldsSigprof onSample s) : HoldsSigprof onSample t := by
  cases call with
  | sigaction signum act => exact sigaction_holds posix start signum act
  | signal signum handler => exact signal_holds posix start signum handler
  | sigprocmask how set => exact sigprocmask_holds posix start how set
  | pthreadSigmask how set => exact pthreadSigmask_holds posix start how set

end Holds

section Waits

variable (real : RealSignals)

theorem sigwait_agrees {f g : List Nat → SignalState → Int × Option Nat × SignalState}
    (agree : AgreeOffSigprof f g) (set : List Nat) (s : SignalState) (lib : Library) :
    sigwait { real with sigwait := some f } set s lib =
      sigwait { real with sigwait := some g } set s lib := by
  simp only [sigwait, agree _ (sigprof_not_mem_withoutSigprof set)]

theorem sigtimedwait_agrees
    {f g : List Nat → Option Nat → SignalState → Int × SigInfo × SignalState}
    (agree : AgreeOffSigprof f g) (pid : Nat) (set : List Nat) (timeout : Option Nat)
    (s : SignalState) (lib : Library) :
    sigtimedwait { real with sigtimedwait := some f } pid set timeout s lib =
      sigtimedwait { real with sigtimedwait := some g } pid set timeout s lib := by
  simp only [sigtimedwait, agree _ (sigprof_not_mem_withoutSigprof set)]

end Waits

/-- From a state where the profiler holds `SIGPROF`, any sequence of calls to the interposed
`sigaction`, `signal`, `sigprocmask` and `pthread_sigmask` ends where it still holds it; and
`sigwait`, `sigwaitinfo` and `sigtimedwait` give the same results for any two C functions that
answer alike on the sets without `SIGPROF`, which are the only ones they ask about. -/
theorem sigprof_stays_with_profiler {real : RealSignals} (posix : Posix real) {onSample : Nat}
    {s t : SignalState} (start : HoldsSigprof onSample s)
    (calls : Relation.ReflTransGen (Call real onSample) s t) :
    HoldsSigprof onSample t ∧
      (∀ f g, AgreeOffSigprof f g → ∀ set s lib,
        sigwait { real with sigwait := some f } set s lib =
          sigwait { real with sigwait := some g } set s lib) ∧
      ∀ f g, AgreeOffSigprof f g → ∀ pid set s lib,
        (∀ timeout, sigtimedwait { real with sigtimedwait := some f } pid set timeout s lib =
          sigtimedwait { real with sigtimedwait := some g } pid set timeout s lib) ∧
        sigwaitinfo { real with sigtimedwait := some f } pid set s lib =
          sigwaitinfo { real with sigtimedwait := some g } pid set s lib := by
  refine ⟨?_, fun f g agree => sigwait_agrees real agree,
    fun f g agree pid set s lib =>
      ⟨fun timeout => sigtimedwait_agrees real agree pid set timeout s lib,
        sigtimedwait_agrees real agree pid set none s lib⟩⟩
  -- the run is a sequence of calls, each keeping `SIGPROF` with the profiler
  induction calls with
  | refl => exact start
  | tail _ call held => exact call.holds posix held

section Posix

/-- A mask function as POSIX describes it; an unknown how fails with `EINVAL`. -/
def posixMask : MaskFn := fun how set s =>
  match set with
  | none => (0, some s.blocked, s)
  | some l =>
    if how = sigBlock then (0, some s.blocked, { s with blocked := s.blocked ++ l })
    else if how = sigUnblock then
      (0, some s.blocked, { s with blocked := s.blocked.filter (· ∉ l) })
    else if how = sigSetmask then (0, some s.blocked, { s with blocked := l })
    else (-1, none, { s with errno := 22 })

/-- A C library whose signal functions do what POSIX says; its waits find the first signal of
their set pending, sent by process 1. -/
def posixSignals : RealSignals where
  sigaction := some fun signum act s =>
    (0, some (s.actions signum),
      { s with actions := fun sig => if sig = signum then act.getD (s.actions sig) else s.actions sig })
  signal := some fun signum handler s =>
    (some (s.actions signum).disposition,
      { s with actions := fun sig =>
          if sig = signum then { s.actions sig with disposition := handler } else s.actions sig })
  sigprocmask := some posixMask
  pthreadSigmask := some posixMask
  sigwait := some fun set s =>
    match set with
    | [] => (22, none, s)
    | sig :: _ => (0, some sig, s)
  sigtimedwait := some fun set _ s =>
    match set with
    | [] => (-1, ⟨0, 0⟩, { s with errno := 22 })
    | sig :: _ => (sig, ⟨sig, 1⟩, s)

theorem posixMask_frame : MaskFrame posixMask := by
  intro how set s
  cases set with
  | none => exact ⟨rfl, fun _ held => .inl held⟩
  | some l =>
    refine ⟨by simp only [posixMask]; split_ifs <;> rfl, fun sig held => ?_⟩
    simp only [posixMask] at held
    split_ifs at held with block unblock setmask
    · rcases List.mem_append.1 held with before | named
      · exact .inl before
      · exact .inr ⟨by rw [block]; decide, l, rfl, named⟩
    · exact .inl (List.mem_filter.1 held).1
    · exact .inr ⟨by rw [setmask]; decide, l, rfl, held⟩
    · exact .inl held

theorem posixSignals_posix : Posix posixSignals where
  sigaction := by
    rintro f ⟨⟩ signum act s
    refine ⟨rfl, fun sig => ?_⟩
    by_cases asked : sig = signum
    · cases act with
      | none => exact .inl (by simp [asked])
      | some a => exact .inr ⟨asked, by simp [asked]⟩
    · exact .inl (by simp [asked])
  signal := by
    rintro f ⟨⟩ signum handler s
    exact ⟨rfl, fun sig other => by simp [other]⟩
  sigprocmask := by
    rintro f ⟨⟩
    exact posixMask_frame
  pthreadSigmask := by
    rintro f ⟨⟩
    exact posixMask_frame

/-- A thread with nothing blocked, the sample handler at address 4096 on `SIGPROF`, and every
other signal at its default. -/
def sampling : SignalState where
  blocked := []
  actions := fun sig => if sig = sigprof then ⟨.handler 4096, 4, []⟩ else .zeroed
  errno := 0

theorem sampling_holds : HoldsSigprof 4096 sampling := by
  simp [HoldsSigprof, sampling]

/-- A program that tries every way of taking `SIGPROF`: it blocks it along with signal 10,
ignores it, resets it to the default, and makes it the whole mask. -/
def hostile (s : SignalState) : SignalState :=
  let s := (sigprocmask posixSignals sigBlock (some [sigprof, 10]) s).2.2
  let s := (sigaction posixSignals 4096 sigprof (some ⟨.ignore, 0, []⟩) s).2.2
  let s := (signal posixSignals sigprof .default s).2
  (pthreadSigmask posixSignals sigSetmask (some [sigprof]) s).2.2

theorem hostile_run (s : SignalState) :
    Relation.ReflTransGen (Call posixSignals 4096) s (hostile s) :=
  .tail (.tail (.tail (.single (.sigprocmask _ _ _)) (.sigaction _ _ _)) (.signal _ _ _))
    (.pthreadSigmask _ _ _)

theorem hostile_program_keeps_sigprof :
    Posix posixSignals ∧ HoldsSigprof 4096 sampling ∧ HoldsSigprof 4096 (hostile sampling) :=
  ⟨posixSignals_posix, sampling_holds,
    (sigprof_stays_with_profiler posixSignals_posix sampling_holds (hostile_run sampling)).1⟩

/-- The other signal of a blocking request is still blocked. -/
example : (sigprocmask posixSignals sigBlock (some [sigprof, 10]) sampling).2.2.blocked = [10] := by
  decide

end Posix

end CausalProfiler.Host.Signals
