import CausalProfiler.Sample
/-!
Scripts over one sample ring: pushes, drains, clears and reads of the drop count, in order.
-/
namespace CausalProfiler.Script

inductive RingStep where
  | push (s : Sample)
  | drain
  | clear
  | dropped

inductive RingAnswer where
  | pushed (accepted : Bool)
  | drained (samples : List Sample)
  | cleared
  | dropped (n : Nat)

def RingStep.run (r : SampleRing) : RingStep → RingAnswer × SampleRing
  | .push s => let (ok, r) := r.push s; (.pushed ok, r)
  | .drain => let (xs, r) := r.drain; (.drained xs, r)
  | .clear => (.cleared, r.clear)
  | .dropped => (.dropped r.dropped, r)

/-- The answers of a script on a fresh ring. -/
def runRing (steps : List RingStep) : List RingAnswer :=
  (steps.foldl (fun (answers, r) step =>
    let (a, r) := step.run r
    (answers ++ [a], r)) (([] : List RingAnswer), SampleRing.empty)).1

end CausalProfiler.Script
