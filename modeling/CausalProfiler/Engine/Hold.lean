import CausalProfiler.Engine.Basic
/-!
The hold of a round. Without arrival speedup the controller idles for the round's length. With
it, the controller asks to sleep one sample period at a time, but a sleep may last longer than
asked: each wake inserts its share of the time it actually slept, and the round lasts until the
measured sleeps cover its length. The sleeps are the host's: one after the other from the time the
hold begins (`Host.sleepsFrom`).
-/
namespace CausalProfiler

/-- The nanoseconds each wake of the controller measures having slept, at least one each. -/
structure Sleeps where
  measured : Nat → Nat
  pos : ∀ i, 0 < measured i

namespace Sleeps

/-- Sleeps of one sample period each, the period being at least a nanosecond. -/
def ofPeriod (period : Nat) : Sleeps := ⟨fun _ => max period 1, fun _ => by omega⟩

/-- The time the first `k` sleeps cover. -/
def total (s : Sleeps) : Nat → Nat
  | 0 => 0
  | k + 1 => s.total k + s.measured k

/-- The delay the first `k` wakes insert at `pct` percent: each wake's share, rounded down. -/
def inserted (s : Sleeps) (pct : Nat) : Nat → Nat
  | 0 => 0
  | k + 1 => s.inserted pct k + s.measured k * pct / 100

end Sleeps

namespace Host

/-- The time of the clock at which the `k`-th of the sleeps asked to last `asked` each, one after
the other from time `t`, ends. -/
def wakeAt (h : Host) (asked t : Nat) : Nat → Nat
  | 0 => t
  | k + 1 => h.wakeAt asked t k + h.sleep asked (h.wakeAt asked t k)

/-- The sleeps asked to last `asked` each, at least a nanosecond, one after the other from time
`t`, as the host makes them last. -/
def sleepsFrom (h : Host) (asked t : Nat) (pos : 0 < asked) : Sleeps :=
  ⟨fun k => h.sleep asked (h.wakeAt asked t k),
    fun _ => Nat.lt_of_lt_of_le pos (h.sleep_ge _ _)⟩

end Host

namespace Controller

/-- The wakes of an arrival-speedup round of `length` nanoseconds from wake `wake` on, `elapsed`
nanoseconds into it: while the round lasts and the profiler runs, the controller sleeps, inserts
`pct` percent of the measured sleep as global delay, and adds the sleep to the elapsed time,
saturating. The length is a word, so a saturated elapsed time covers it. -/
def holdWakes (sleeps : Sleeps) (pct length : Nat) (fits : length ≤ Word.max)
    (wake elapsed : Nat) : ControlM Unit := do
  let c ← get
  if lasting : elapsed < length ∧ c.world.profiler.running = true then
    let slept := sleeps.measured wake
    let amount ← lift (Word.mul slept pct)
    set { c with world := { c.world with
      profiler := c.world.profiler.insertDelay (amount / 100), clock := c.world.clock + slept } }
    holdWakes sleeps pct length fits (wake + 1) (Word.addSat elapsed slept)
  else pure ()
termination_by length - elapsed
decreasing_by
  have slept := sleeps.pos wake
  have top : Word.max = 18446744073709551615 := rfl
  simp only [Word.addSat, Nat.min_def]
  split <;> omega

/-- Keeps a round running for `length` nanoseconds, the controller's sleeps lasting as measured:
without arrival speedup it idles; with it, the controller wakes until the sleeps cover the
length. -/
def holdRound (sleeps : Sleeps) (r : Round) (length : Nat) (fits : length ≤ Word.max) :
    ControlM Unit :=
  if r.arrivalSpeedup = 0 then idle length
  else holdWakes sleeps r.arrivalSpeedup length fits 0 0

/-- Keeps a round running for `length` nanoseconds on a host, its sleeps of one sample period
each from the time the hold begins. -/
def holdRoundOn (host : Host) (r : Round) (length : Nat) (fits : length ≤ Word.max) :
    ControlM Unit := do
  let c ← get
  holdRound (host.sleepsFrom (max c.world.profiler.engine.samplePeriod 1) c.world.clock
    (by omega)) r length fits

end Controller

end CausalProfiler
