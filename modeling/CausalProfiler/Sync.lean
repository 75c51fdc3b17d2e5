import CausalProfiler.Profiler
/-!
Blocking operations and how the delay protocol treats them. An operation that wakes others
first pays the thread's own delay debt; an operation that may block is credited with the
delays inserted while it blocked, always, never, or only when it succeeded. `intercept` runs a
call between the hooks an operation asks for.
-/
namespace CausalProfiler

/-- The synchronisation operations the profiler sees. -/
inductive SyncOp where
  | lock | tryLock | unlock | wait | timedWait | signal | broadcast | join | tryJoin
  | barrier | signalWait | wake
deriving Repr, DecidableEq

/-- When a blocked thread is credited with the delays inserted while it blocked. -/
inductive Credit where
  | never | always | onSuccess
deriving Repr, DecidableEq

/-- How an operation takes part in the delay protocol. -/
structure Hook where
  catchUp : Bool
  credit : Credit
deriving Repr, DecidableEq

/-- Waking operations catch up and are never credited; blocking ones are credited always or
on success; a barrier does both. -/
def SyncOp.hook : SyncOp → Hook
  | .lock | .wait | .join => ⟨false, .always⟩
  | .tryLock | .timedWait | .tryJoin | .signalWait => ⟨false, .onSuccess⟩
  | .unlock | .signal | .broadcast | .wake => ⟨true, .never⟩
  | .barrier => ⟨true, .always⟩

/-- Whether a blocked call that ended with the given success is credited. -/
def Credit.applies (c : Credit) (succeeded : Bool) : Bool :=
  match c with
  | .never => false
  | .always => true
  | .onSuccess => succeeded

namespace Profiler

/-- What an operation's hooks do to slot `i` before its call: pay the slot's debt if the
operation wakes others, then note the global delay if the call may be credited. -/
def beforeCall (p : Profiler) (i : Nat) (h : Hook) : Profiler :=
  let p := if h.catchUp then p.catchUp i else p
  if h.credit = .never then p else p.preBlock i

/-- What an operation's hooks do to slot `i` once its call returned with the given success:
credit the delay inserted meanwhile, if the call is credited. -/
def afterCall (p : Profiler) (i : Nat) (h : Hook) (succeeded : Bool) : Profiler :=
  if h.credit = .never then p else p.postBlock i (h.credit.applies succeeded)

/-- Runs `call` as operation `op` of the thread in slot `i`, under the delay protocol. The call
starts from the profiler as the hooks leave it and gives back its result with the profiler as
the other threads left it; `succeeded` tells from the result whether a call credited on success
succeeded. -/
def intercept {α : Type} (p : Profiler) (i : Nat) (op : SyncOp) (call : Profiler → α × Profiler)
    (succeeded : α → Bool) : α × Profiler :=
  let (r, q) := call (p.beforeCall i op.hook)
  (r, q.afterCall i op.hook (succeeded r))

end Profiler

end CausalProfiler
