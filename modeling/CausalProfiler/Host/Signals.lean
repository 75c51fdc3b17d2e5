import CausalProfiler.Host.Library
/-!
The signal interposers. The profiled program may not replace the `SIGPROF` handler, block
`SIGPROF`, or wait for it: a request that would is answered as if it succeeded, without touching
`SIGPROF`. A signal wait is a blocking call under the delay protocol, credited when it returned
a signal (for the waits that report the sender, a signal this process sent).

Every other request goes to the C library's own function, looked up on first use; a call whose
function cannot be found fails with `ENOSYS`. The C library is a parameter: each of its functions
reads the calling thread's signal state and gives its return value, what it writes through its
out-pointer, and the state after it. Sending signals (`kill` and the thread-signalling
functions) changes no signal state and is not modelled.
-/
namespace CausalProfiler.Host

/-- The profiling signal. -/
def sigprof : Nat := 27

/-- The error a call whose C function is missing reports. -/
def enosys : Int := 38

/-- A mask call that adds the set it is given to the blocked signals. -/
def sigBlock : Int := 0

/-- A mask call that removes the set it is given from the blocked signals. -/
def sigUnblock : Int := 1

/-- A mask call that makes the set it is given the blocked signals. -/
def sigSetmask : Int := 2

/-- What a delivered signal does: its default action, nothing, or run the handler at an
address. -/
inductive Disposition where
  | default
  | ignore
  | handler (address : Nat)
deriving Repr, DecidableEq

/-- A signal's action, as `sigaction` reads and writes it. -/
structure SigAction where
  disposition : Disposition
  flags : Nat
  /-- The signals blocked while the handler runs. -/
  mask : List Nat
deriving Repr, DecidableEq

/-- The action written out for an ignored request: every field zero. -/
def SigAction.zeroed : SigAction := ⟨.default, 0, []⟩

/-- What a signal wait reports of the signal it returned. -/
structure SigInfo where
  signo : Nat
  /-- The process that sent it. -/
  pid : Nat
deriving Repr, DecidableEq

/-- The calling thread's signal state: its blocked signals, each signal's action, and `errno`. -/
structure SignalState where
  blocked : List Nat
  actions : Nat → SigAction
  errno : Int

/-- The state after a call that fails with `ENOSYS`. -/
def SignalState.missing (s : SignalState) : SignalState := { s with errno := enosys }

/-- The type of `sigprocmask` and `pthread_sigmask`: from how, the set (none for a null pointer)
and the state, the return value, the old mask and the state after. -/
abbrev MaskFn := Int → Option (List Nat) → SignalState → Int × Option (List Nat) × SignalState

/-- The C library's signal functions, each absent when the lookup fails. -/
structure RealSignals where
  sigaction : Option (Nat → Option SigAction → SignalState → Int × Option SigAction × SignalState)
  /-- Gives the previous disposition, or none for `SIG_ERR`. -/
  signal : Option (Nat → Disposition → SignalState → Option Disposition × SignalState)
  sigprocmask : Option MaskFn
  pthreadSigmask : Option MaskFn
  /-- Gives the return value and the signal written out. -/
  sigwait : Option (List Nat → SignalState → Int × Option Nat × SignalState)
  /-- Takes the set and the timeout (none for a null pointer, waiting for ever); gives the
  return value and the sender information the kernel filled in. -/
  sigtimedwait : Option (List Nat → Option Nat → SignalState → Int × SigInfo × SignalState)

/-- What an interposed wait gives: the return value, what it wrote out, the signal state after
it, and the library after the profiler saw the blocking call (unchanged when the C function was
missing and nothing blocked). -/
structure Waited (α : Type) where
  rc : Int
  out : Option α
  state : SignalState
  library : Library

namespace Signals

variable (real : RealSignals) (onSample : Nat)

/-- A copy of a set without `SIGPROF`. -/
def withoutSigprof (set : List Nat) : List Nat := set.filter (· != sigprof)

/-- Whether an action (none for a null pointer) installs something other than the sample
handler at address `onSample`. -/
def replacesSampleHandler : Option SigAction → Bool
  | none => false
  | some act => act.disposition != .handler onSample

/-- `sigaction`: a request to replace the `SIGPROF` handler succeeds and changes nothing, and
the old action written out is zeroed. -/
def sigaction (signum : Nat) (act : Option SigAction) (s : SignalState) :
    Int × Option SigAction × SignalState :=
  if signum = sigprof ∧ replacesSampleHandler onSample act = true then (0, some .zeroed, s)
  else match real.sigaction with
    | some f => f signum act s
    | none => (-1, none, s.missing)

/-- `signal`: any request for `SIGPROF` answers that its disposition was the default. -/
def signal (signum : Nat) (handler : Disposition) (s : SignalState) :
    Option Disposition × SignalState :=
  if signum = sigprof then (some .default, s)
  else match real.signal with
    | some f => f signum handler s
    | none => (none, s.missing)

/-- Calls a mask function with `SIGPROF` removed from any set being blocked; unblocking and
queries go through as they are. -/
def mask (f : MaskFn) (how : Int) (set : Option (List Nat)) (s : SignalState) :
    Int × Option (List Nat) × SignalState :=
  match set with
  | none => f how none s
  | some l => if how = sigUnblock then f how (some l) s else f how (some (withoutSigprof l)) s

/-- `sigprocmask`, which never blocks `SIGPROF`; when missing it sets `errno`. -/
def sigprocmask (how : Int) (set : Option (List Nat)) (s : SignalState) :
    Int × Option (List Nat) × SignalState :=
  match real.sigprocmask with
  | some f => mask f how set s
  | none => (-1, none, s.missing)

/-- `pthread_sigmask`, which never blocks `SIGPROF`; when missing it returns the error. -/
def pthreadSigmask (how : Int) (set : Option (List Nat)) (s : SignalState) :
    Int × Option (List Nat) × SignalState :=
  match real.pthreadSigmask with
  | some f => mask f how set s
  | none => (enosys, none, s)

/-- `sigwait`, waiting for a signal other than `SIGPROF`. It does not report the sender, so
any signal it returns credits the blocked time. -/
def sigwait (set : List Nat) (s : SignalState) (lib : Library) : Waited Nat :=
  match real.sigwait with
  | none => ⟨enosys, none, s, lib⟩
  | some f =>
    let (rc, sig, s') := f (withoutSigprof set) s
    ⟨rc, sig, s', lib.intercept .signalWait (rc == 0)⟩

/-- Whether a wait returned a signal sent by the process `pid`. -/
def sentBy (pid : Nat) (rc : Int) (info : SigInfo) : Bool := 0 < rc && info.pid == pid

/-- `sigtimedwait` in the process `pid`, waiting for a signal other than `SIGPROF`; the
information is written out only when a signal was returned, and the blocked time is credited
only for a signal the process sent itself. -/
def sigtimedwait (pid : Nat) (set : List Nat) (timeout : Option Nat) (s : SignalState)
    (lib : Library) : Waited SigInfo :=
  match real.sigtimedwait with
  | none => ⟨-1, none, s.missing, lib⟩
  | some f =>
    let (rc, info, s') := f (withoutSigprof set) timeout s
    ⟨rc, if 0 < rc then some info else none, s', lib.intercept .signalWait (sentBy pid rc info)⟩

/-- `sigwaitinfo`: a `sigtimedwait` without a timeout. -/
def sigwaitinfo (pid : Nat) (set : List Nat) (s : SignalState) (lib : Library) :
    Waited SigInfo :=
  sigtimedwait real pid set none s lib

end Signals

end CausalProfiler.Host
