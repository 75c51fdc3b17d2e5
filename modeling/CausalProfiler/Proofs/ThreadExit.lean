import CausalProfiler.Proofs.RingDelivery
import CausalProfiler.Proofs.TableKeys
/-!
# A thread's exit and the controller's drains of its ring

A thread leaving the profiler looks its slot up, drains its own sample ring, takes its re-entry
guard and reconciles its delay, and removes itself from the thread table. Every drain of the
ring hands each sample to `Profiler.takeSample` on the thread's slot, and the controller drains
the same ring at any time. `Step` interleaves the exit's steps with the ring steps of the
thread's drain and of the controller's drains (`SampleRing.Step`); a drain's callback runs in
the step that reads the sample. A drain that finds the ring's flag set returns at once, having
taken nothing. The thread's sampler is stopped before it exits, so nothing is pushed meanwhile.

* If a controller's drain holds the flag when the thread's drain begins, the thread reconciles
  and leaves the table before the controller hands the buffered samples over. They charge the
  released slot after the thread has published its delay (`charge_lands_after_exit`).
* If the thread's drain takes the flag, the buffered samples are attributed in order before the
  reconciliation, the exit ends where `Profiler.unregisterAfter` after them ends, and nothing
  changes once the thread is gone (`exit_charges_before_reconciling`).
-/
namespace CausalProfiler

namespace ThreadTable

variable {α : Type} {t u : ThreadTable α} {k : Nat}

/-- Tables with the same keys slot by slot agree on every key word. -/
theorem keyAt_eq_of_keys (keys : t.slots.map Slot.key = u.slots.map Slot.key) (i : Nat) :
    t.keyAt i = u.keyAt i := by
  have slot := congrArg (·[i]?) keys
  simp only [List.getElem?_map] at slot
  exact slot

theorem capacity_eq_of_keys (keys : t.slots.map Slot.key = u.slots.map Slot.key) :
    t.capacity = u.capacity := by
  simpa only [capacity, List.length_map] using congrArg List.length keys

theorem Valid.of_keys (valid : u.Valid) (keys : t.slots.map Slot.key = u.slots.map Slot.key) :
    t.Valid := by
  have probes : ∀ key, t.probe key = u.probe key := fun key => by
    simp only [probe, capacity_eq_of_keys keys]
  refine ⟨capacity_eq_of_keys keys ▸ valid.nonempty, fun i j key held₁ held₂ => ?_,
    fun i key held j mem => ?_⟩
  · rw [keyAt_eq_of_keys keys] at held₁ held₂
    exact valid.unique i j key held₁ held₂
  · rw [keyAt_eq_of_keys keys] at held ⊢
    rw [probes] at mem
    exact valid.reach i key held j mem

/-- Lookups read only the keys. -/
theorem find?_eq_of_keys (valid : u.Valid) (storable : Storable k)
    (keys : t.slots.map Slot.key = u.slots.map Slot.key) : t.find? k = u.find? k :=
  Option.ext fun i => by
    rw [find?_eq_some_iff (valid.of_keys keys) storable, find?_eq_some_iff valid storable,
      keyAt_eq_of_keys keys]

/-- Removing a key from a valid table leaves no slot holding it. -/
theorem find?_remove_self (valid : t.Valid) (storable : Storable k) :
    (t.remove k).2.find? k = none := by
  unfold remove
  split
  · rename_i i found
    have held := (find?_eq_some_iff valid storable).mp found
    refine find?_eq_none (fun j held' => ?_) storable.2
    rcases keyAt_setKey_cases held' with ⟨-, tomb⟩ | ⟨other, old⟩
    · cases tomb
    · exact other (valid.unique j i k old held)
  · assumption

end ThreadTable

namespace Profiler

/-- Attributes samples taken on slot `i` one after another, as a drain's callback does. -/
def takeSamples (p : Profiler) (i : Nat) (smps : List Sample) : Profiler :=
  smps.foldl (fun q smp => q.takeSample i smp) p

variable {p : Profiler} {i : Nat}

@[simp] theorem takeSamples_nil : p.takeSamples i [] = p := rfl

theorem takeSamples_append (a b : List Sample) :
    p.takeSamples i (a ++ b) = (p.takeSamples i a).takeSamples i b :=
  List.foldl_append ..

theorem keys_takeSample (smp : Sample) :
    (p.takeSample i smp).threads.slots.map Slot.key = p.threads.slots.map Slot.key := by
  obtain ⟨charged, samples, proposal, eq⟩ := takeSample_eq p i smp
  rw [eq]
  cases charged
  · rfl
  · exact ThreadTable.keys_modifyValue _ _ _

theorem active_takeSample (smp : Sample) : (p.takeSample i smp).active = p.active := by
  obtain ⟨charged, samples, proposal, eq⟩ := takeSample_eq p i smp
  rw [eq]
  cases charged <;> rfl

theorem keys_takeSamples (p : Profiler) (smps : List Sample) :
    (p.takeSamples i smps).threads.slots.map Slot.key = p.threads.slots.map Slot.key := by
  induction smps generalizing p with
  | nil => rfl
  | cons smp smps ih => exact (ih (p.takeSample i smp)).trans (keys_takeSample smp)

theorem active_takeSamples (p : Profiler) (smps : List Sample) :
    (p.takeSamples i smps).active = p.active := by
  induction smps generalizing p with
  | nil => rfl
  | cons smp smps ih => exact (ih (p.takeSample i smp)).trans (active_takeSample smp)

/-- A valid table answers lookups of storable keys the same after samples are attributed. -/
theorem slot?_takeSamples (valid : p.threads.Valid) {k : Nat} (storable : ThreadTable.Storable k)
    (smps : List Sample) : (p.takeSamples i smps).slot? k = p.slot? k :=
  ThreadTable.find?_eq_of_keys valid storable (keys_takeSamples p smps)

theorem keys_addDelays (o : Nat) :
    (p.addDelays i o).threads.slots.map Slot.key = p.threads.slots.map Slot.key := by
  unfold addDelays settle
  split
  · exact ThreadTable.keys_modifyValue _ _ _
  · split
    · rfl
    · split
      · exact ThreadTable.keys_modifyValue _ _ _
      · rfl

/-- During an experiment, a reconciliation leaves the global delay at least the slot's delay
before it. -/
theorem paid_le_global_addDelays (active : p.active = true) (o : Nat) :
    (p.account i).paid ≤ (p.addDelays i o).global := by
  simp only [addDelays, active, Bool.not_true, Bool.false_eq_true, ↓reduceIte, settle]
  split
  · exact Nat.le_max_right _ _
  · split
    · simp only [global_setAccount]
      omega
    · omega

end Profiler

namespace SampleRing

variable {c : Nat} {r r' : Shared}

/-- A step hands samples over only at the end of the delivered list. -/
theorem Step.delivered_prefix {a : Actor} (step : Step a r r') : r.delivered <+: r'.delivered := by
  cases step with
  | deliver => exact List.prefix_append _ _
  | _ => exact List.prefix_refl _

theorem Step.producer_eq (step : Step (.consumer c) r r') : r'.producer = r.producer := by
  cases step <;> rfl

theorem Step.consumer_other (step : Step (.consumer c) r r') {c' : Nat} (other : c' ≠ c) :
    r'.consumer c' = r.consumer c' := by
  cases step with
  | busy => rfl
  | _ => exact Function.update_of_ne other _ _

/-- A drain that leaves the idle state swapped the flag from clear. -/
theorem Step.free_of_start (step : Step (.consumer c) r r') (idle : r.consumer c = .idle)
    (busy : r'.consumer c ≠ .idle) : r.draining = false := by
  cases step with
  | acquire _ _ free => exact free
  | busy => exact absurd idle busy
  | readTail _ at_ | readHead _ _ at_ | deliver _ _ _ _ _ at_ _ _ | storeTail _ _ _ at_
  | unlock _ at_ =>
    rw [idle] at at_
    cases at_

/-- A drain that returns to idle from under way clears the flag. -/
theorem Step.clear_of_return (step : Step (.consumer c) r r') (busy : r.consumer c ≠ .idle)
    (idle : r'.consumer c = .idle) : r'.draining = false := by
  cases step with
  | acquire _ idle' _ | busy _ idle' _ => exact absurd idle' busy
  | unlock => rfl
  | readTail | readHead | deliver | storeTail =>
    simp only [Shared.setConsumer, Function.update_self] at idle
    cases idle

/-- Once every accepted sample is delivered, a drain hands nothing over. -/
theorem Step.delivered_eq_of_all (step : Step (.consumer c) r r') (sound : Sound r')
    (all : r.delivered = r.accepted) : r'.delivered = r.delivered := by
  have grown := step.delivered_prefix
  have within := sound.delivered
  rw [accepted_of_drain step, ← all] at within
  exact within.eq_of_length (Nat.le_antisymm within.length_le grown.length_le)

end SampleRing

namespace ThreadExit

/-- The samples of a ring accepted and not yet handed to a callback. -/
def buffered (r : SampleRing.Shared) : List Sample := r.accepted.drop r.delivered.length

/-- The samples a ring step hands to its drain's callback. -/
def handed (r r' : SampleRing.Shared) : List Sample := r'.delivered.drop r.delivered.length

/-- The ring consumer that is the exiting thread's own drain; the others are the controller's. -/
def own : Nat := 0

/-- Where the exiting thread is. -/
inductive Pc where
  /-- Looks its slot up next. -/
  | find
  /-- Drains its ring, as the ring's consumer `own`. -/
  | drain
  /-- Its drain has returned; it takes its re-entry guard next. -/
  | enter
  | reconcile
  | remove
  | done
deriving DecidableEq

/-- The exiting thread: its id, its slot, and whether its re-entry guard is taken, as it is when
the thread leaves from inside the profiler. -/
structure Exiting where
  tid : Nat
  slot : Nat
  guarded : Bool

/-- The thread's ring with the drains of it, the profiler, and where the exit is. -/
structure State where
  ring : SampleRing.Shared
  profiler : Profiler
  pc : Pc

/-- The exit about to begin. -/
def State.start (r : SampleRing.Shared) (p : Profiler) : State := ⟨r, p, .find⟩

/-- One atomic step of the exit or of a controller's drain of the thread's ring. Every drain
hands what it reads to `Profiler.takeSample` on the thread's slot. With `exclusive`, the
thread's drain never finds the flag set. -/
inductive Step (t : Exiting) (exclusive : Bool) : State → State → Prop
  | found {s : State} (at_ : s.pc = .find) (slot : s.profiler.slot? t.tid = some t.slot) :
      Step t exclusive s { s with pc := .drain }
  | missing {s : State} (at_ : s.pc = .find) (absent : s.profiler.slot? t.tid = none) :
      Step t exclusive s { s with pc := .done }
  /-- A step of the thread's drain that leaves it under way. -/
  | drainStep {s : State} {r : SampleRing.Shared} (at_ : s.pc = .drain)
      (step : SampleRing.Step (.consumer own) s.ring r) (busy : r.consumer own ≠ .idle) :
      Step t exclusive s ⟨r, s.profiler.takeSamples t.slot (handed s.ring r), .drain⟩
  /-- The step with which the thread's drain returns: it clears the flag, or it finds the flag
  set and returns at once. -/
  | drainReturn {s : State} {r : SampleRing.Shared} (at_ : s.pc = .drain)
      (step : SampleRing.Step (.consumer own) s.ring r) (idle : r.consumer own = .idle)
      (took : exclusive = true → s.ring.consumer own ≠ .idle) :
      Step t exclusive s ⟨r, s.profiler.takeSamples t.slot (handed s.ring r), .enter⟩
  /-- A step of a controller's drain, at any point of the exit. -/
  | collect {s : State} {r : SampleRing.Shared} (c : Nat) (other : c ≠ own)
      (step : SampleRing.Step (.consumer c) s.ring r) :
      Step t exclusive s ⟨r, s.profiler.takeSamples t.slot (handed s.ring r), s.pc⟩
  | enter {s : State} (at_ : s.pc = .enter) (free : t.guarded = false) :
      Step t exclusive s { s with pc := .reconcile }
  | skip {s : State} (at_ : s.pc = .enter) (taken : t.guarded = true) :
      Step t exclusive s { s with pc := .remove }
  /-- The last reconciliation, oversleeping its debt by `overshoot`. -/
  | reconcile {s : State} (overshoot : Nat) (at_ : s.pc = .reconcile) :
      Step t exclusive s
        { s with profiler := s.profiler.addDelays t.slot overshoot, pc := .remove }
  | remove {s : State} (at_ : s.pc = .remove) :
      Step t exclusive s
        { s with profiler := { s.profiler with threads := (s.profiler.threads.remove t.tid).2 },
                 pc := .done }

theorem delivered_eq_append_handed {r r' : SampleRing.Shared}
    (grown : r.delivered <+: r'.delivered) : r'.delivered = r.delivered ++ handed r r' :=
  (List.prefix_iff_eq_append.mp grown).symm

section Keys

variable {t : Exiting} {p : Profiler}

/-- The table through any exit: the keys it began with until the removal, and the thread gone
after it. -/
def Keys (t : Exiting) (p q : Profiler) : Pc → Prop
  | .done => q.threads.Valid ∧ q.slot? t.tid = none
  | _ => q.threads.slots.map Slot.key = p.threads.slots.map Slot.key

/-- Attributing samples keeps `Keys` at every point. -/
theorem Keys.takeSamples (storable : ThreadTable.Storable t.tid) {q : Profiler} {pc : Pc}
    (h : Keys t p q pc) (smps : List Sample) : Keys t p (q.takeSamples t.slot smps) pc := by
  have keys := Profiler.keys_takeSamples (i := t.slot) q smps
  cases pc with
  | done =>
    obtain ⟨valid', absent⟩ := h
    exact ⟨valid'.of_keys keys,
      (ThreadTable.find?_eq_of_keys valid' storable keys).trans absent⟩
  | _ => exact keys.trans h

theorem keys_of_run (valid : p.threads.Valid) (storable : ThreadTable.Storable t.tid)
    {r : SampleRing.Shared} {exclusive : Bool} {s : State}
    (run : Relation.ReflTransGen (Step t exclusive) (.start r p) s) : Keys t p s.profiler s.pc := by
  induction run with
  | refl => rfl
  | tail _ step ih =>
    cases step with
    | found at_ _ | enter at_ _ | skip at_ _ =>
      rw [at_] at ih
      exact ih
    | missing at_ absent =>
      rw [at_] at ih
      exact ⟨valid.of_keys ih, absent⟩
    | drainStep at_ _ _ | drainReturn at_ _ _ _ =>
      rw [at_] at ih
      exact ih.takeSamples storable _
    | collect => exact ih.takeSamples storable _
    | reconcile o at_ =>
      rw [at_] at ih
      exact (Profiler.keys_addDelays o).trans ih
    | remove at_ =>
      rw [at_] at ih
      have valid' := valid.of_keys ih
      exact ⟨valid'.remove t.tid, ThreadTable.find?_remove_self valid' storable⟩

end Keys

section Invariant

variable {t : Exiting} {r : SampleRing.Shared} {p : Profiler}

/-- The samples `D` handed over since the exit began, each attributed to the slot in order. -/
def Attributed (t : Exiting) (r : SampleRing.Shared) (p : Profiler) (s : State) : Prop :=
  ∃ D, s.ring.delivered = r.delivered ++ D ∧ s.profiler = p.takeSamples t.slot D

/-- The profiler after the exit's reconciliation, or with it skipped while the guard is taken. -/
def Settled (t : Exiting) (q q' : Profiler) : Prop :=
  t.guarded = true ∧ q' = q ∨ ∃ o, t.guarded = false ∧ q' = q.addDelays t.slot o

theorem Settled.reconciled {q q' : Profiler} (h : Settled t q q') (free : t.guarded = false) :
    ∃ o, q' = q.addDelays t.slot o := by
  rcases h with ⟨taken, -⟩ | ⟨o, -, reconciled⟩
  · rw [free] at taken
    cases taken
  · exact ⟨o, reconciled⟩

/-- What each point of an exit whose drain takes the flag says, where `q` is the profiler with
every buffered sample attributed. -/
def Progress (t : Exiting) (r : SampleRing.Shared) (p q : Profiler) (s : State) : Pc → Prop
  | .find => s.ring.consumer own = .idle ∧ Attributed t r p s
  | .drain => (s.ring.consumer own ≠ .idle → SampleRing.Flushing s.ring) ∧ Attributed t r p s
  | .enter => s.ring.delivered = s.ring.accepted ∧ s.profiler = q
  | .reconcile => s.ring.delivered = s.ring.accepted ∧ t.guarded = false ∧ s.profiler = q
  | .remove => s.ring.delivered = s.ring.accepted ∧ Settled t q s.profiler
  | .done => s.ring.delivered = s.ring.accepted ∧
      ∃ q', Settled t q q' ∧ s.profiler = { q' with threads := (q'.threads.remove t.tid).2 }

/-- The invariant of the exits whose drain takes the flag. -/
structure Inv (t : Exiting) (r : SampleRing.Shared) (p : Profiler) (s : State) : Prop where
  sound : SampleRing.Sound s.ring
  stopped : s.ring.producer = .idle
  accepted : s.ring.accepted = r.accepted
  progress : Progress t r p (p.takeSamples t.slot (buffered r)) s s.pc

theorem Attributed.step {s : State} (h : Attributed t r p s) {a : SampleRing.Actor}
    {r' : SampleRing.Shared} (step : SampleRing.Step a s.ring r') (pc : Pc) :
    Attributed t r p ⟨r', s.profiler.takeSamples t.slot (handed s.ring r'), pc⟩ := by
  obtain ⟨D, delivered, profiler⟩ := h
  refine ⟨D ++ handed s.ring r', ?_, ?_⟩
  · show r'.delivered = _
    rw [delivered_eq_append_handed step.delivered_prefix, delivered, List.append_assoc]
  · show s.profiler.takeSamples _ _ = _
    rw [profiler, Profiler.takeSamples_append]

/-- Once every accepted sample is delivered, the samples attributed during the exit are the
buffered ones. -/
theorem Attributed.all {s : State} (h : Attributed t r p s)
    (accepted : s.ring.accepted = r.accepted) (all : s.ring.delivered = s.ring.accepted) :
    s.profiler = p.takeSamples t.slot (buffered r) := by
  obtain ⟨D, delivered, profiler⟩ := h
  have rest : D = buffered r := by
    rw [all, accepted] at delivered
    rw [buffered, delivered, List.drop_left]
  rw [profiler, rest]

/-- A controller's drain step keeps `Progress` at every point: before the thread's drain has
returned, what it hands over is attributed; after, it hands nothing over. -/
theorem Progress.collect {q : Profiler} {s : State} {pc : Pc} (h : Progress t r p q s pc)
    (sound : SampleRing.Sound s.ring) {c : Nat} (other : c ≠ own) {r' : SampleRing.Shared}
    (step : SampleRing.Step (.consumer c) s.ring r') (pc' : Pc) :
    Progress t r p q ⟨r', s.profiler.takeSamples t.slot (handed s.ring r'), pc'⟩ pc := by
  have quietly : s.ring.delivered = s.ring.accepted →
      r'.delivered = r'.accepted ∧
        s.profiler.takeSamples t.slot (handed s.ring r') = s.profiler := by
    intro all
    have same := step.delivered_eq_of_all (sound.step step) all
    refine ⟨same.trans (all.trans (SampleRing.accepted_of_drain step).symm), ?_⟩
    rw [handed, same, List.drop_length, Profiler.takeSamples_nil]
  cases pc with
  | find =>
    obtain ⟨idle, attributed⟩ := h
    exact ⟨(step.consumer_other (Ne.symm other)).trans idle, attributed.step step pc'⟩
  | drain =>
    obtain ⟨flushing, attributed⟩ := h
    refine ⟨fun busy => (flushing ?_).step sound step, attributed.step step pc'⟩
    rwa [← step.consumer_other (Ne.symm other)]
  | enter =>
    obtain ⟨all, profiler⟩ := h
    obtain ⟨all', same⟩ := quietly all
    exact ⟨all', same.trans profiler⟩
  | reconcile =>
    obtain ⟨all, free, profiler⟩ := h
    obtain ⟨all', same⟩ := quietly all
    exact ⟨all', free, same.trans profiler⟩
  | remove =>
    obtain ⟨all, settled⟩ := h
    obtain ⟨all', same⟩ := quietly all
    refine ⟨all', ?_⟩
    show Settled t q (s.profiler.takeSamples t.slot (handed s.ring r'))
    rw [same]
    exact settled
  | done =>
    obtain ⟨all, q', settled, profiler⟩ := h
    obtain ⟨all', same⟩ := quietly all
    exact ⟨all', q', settled, same.trans profiler⟩

/-- A step of the thread's drain that leaves it under way: its first swaps the flag from clear, and
from then on every head a drain loads counts every accepted sample. -/
theorem Progress.drainStep {q : Profiler} {s : State} (h : Progress t r p q s .drain)
    (sound : SampleRing.Sound s.ring) (stopped : s.ring.producer = .idle) {r' : SampleRing.Shared}
    (step : SampleRing.Step (.consumer own) s.ring r') (busy : r'.consumer own ≠ .idle)
    (pc' : Pc) :
    Progress t r p q ⟨r', s.profiler.takeSamples t.slot (handed s.ring r'), pc'⟩ .drain := by
  obtain ⟨flushing, attributed⟩ := h
  refine ⟨fun _ => ?_, attributed.step step pc'⟩
  by_cases idle : s.ring.consumer own = .idle
  · exact sound.flushing_of_quiet stopped (step.free_of_start idle busy) step
  · exact (flushing idle).step sound step

/-- The thread's drain, having taken the flag, returns only once it has released every accepted
sample, so all the buffered ones are attributed. -/
theorem Progress.drainReturn {s : State}
    (h : Progress t r p (p.takeSamples t.slot (buffered r)) s .drain)
    (sound : SampleRing.Sound s.ring) (accepted : s.ring.accepted = r.accepted)
    {r' : SampleRing.Shared} (step : SampleRing.Step (.consumer own) s.ring r')
    (idle : r'.consumer own = .idle) (took : s.ring.consumer own ≠ .idle) (pc' : Pc) :
    Progress t r p (p.takeSamples t.slot (buffered r))
      ⟨r', s.profiler.takeSamples t.slot (handed s.ring r'), pc'⟩ .enter := by
  obtain ⟨flushing, attributed⟩ := h
  have sound' := sound.step step
  have flushing' := (flushing took).step sound step
  have clear := step.clear_of_return took idle
  have all : r'.delivered = r'.accepted :=
    sound'.delivered.eq_of_length (by rw [sound'.quiet clear, flushing'.quiet clear])
  have accepted' := (SampleRing.accepted_of_drain step).trans accepted
  exact ⟨all, (attributed.step step pc').all accepted' all⟩

theorem inv_start (ring : Relation.ReflTransGen SampleRing.Moves SampleRing.Shared.start r)
    (stopped : r.producer = .idle) (ownIdle : r.consumer own = .idle) :
    Inv t r p (.start r p) :=
  ⟨SampleRing.sound_of_run ring, stopped, rfl, ownIdle, [], (List.append_nil _).symm, rfl⟩

/-- A drain's step keeps the ring's part of the invariant. -/
theorem Inv.drained {s : State} (h : Inv t r p s) {c : Nat} {r' : SampleRing.Shared}
    (step : SampleRing.Step (.consumer c) s.ring r') {q : Profiler} {pc : Pc}
    (progress : Progress t r p (p.takeSamples t.slot (buffered r)) ⟨r', q, pc⟩ pc) :
    Inv t r p ⟨r', q, pc⟩ :=
  ⟨h.sound.step step, step.producer_eq.trans h.stopped,
    (SampleRing.accepted_of_drain step).trans h.accepted, progress⟩

/-- A step of the exit that leaves the ring alone keeps the ring's part of the invariant. -/
theorem Inv.moved {s : State} (h : Inv t r p s) {q : Profiler} {pc : Pc}
    (progress : Progress t r p (p.takeSamples t.slot (buffered r)) ⟨s.ring, q, pc⟩ pc) :
    Inv t r p ⟨s.ring, q, pc⟩ :=
  ⟨h.sound, h.stopped, h.accepted, progress⟩

theorem Inv.step (valid : p.threads.Valid) (storable : ThreadTable.Storable t.tid)
    (holds : p.slot? t.tid = some t.slot) {s s' : State} (h : Inv t r p s)
    (step : Step t true s s') : Inv t r p s' := by
  have progress := h.progress
  cases step with
  | found at_ _ =>
    rw [at_] at progress
    obtain ⟨idle, attributed⟩ := progress
    exact h.moved ⟨fun busy => absurd idle busy, attributed⟩
  | missing at_ absent =>
    -- the thread holds its slot until it removes itself
    rw [at_] at progress
    obtain ⟨-, D, -, profiler⟩ := progress
    rw [profiler, Profiler.slot?_takeSamples valid storable, holds] at absent
    cases absent
  | drainStep at_ step busy =>
    rw [at_] at progress
    exact h.drained step (progress.drainStep h.sound h.stopped step busy _)
  | drainReturn at_ step idle took =>
    rw [at_] at progress
    exact h.drained step (progress.drainReturn h.sound h.accepted step idle (took rfl) _)
  | collect c other step => exact h.drained step (progress.collect h.sound other step _)
  | enter at_ free =>
    rw [at_] at progress
    obtain ⟨all, profiler⟩ := progress
    exact h.moved ⟨all, free, profiler⟩
  | skip at_ taken =>
    rw [at_] at progress
    obtain ⟨all, profiler⟩ := progress
    exact h.moved ⟨all, .inl ⟨taken, profiler⟩⟩
  | reconcile o at_ =>
    rw [at_] at progress
    obtain ⟨all, free, profiler⟩ := progress
    refine h.moved ⟨all, .inr ⟨o, free, ?_⟩⟩
    rw [profiler]
  | remove at_ =>
    rw [at_] at progress
    obtain ⟨all, settled⟩ := progress
    exact h.moved ⟨all, _, settled, rfl⟩

theorem inv_of_run (ring : Relation.ReflTransGen SampleRing.Moves SampleRing.Shared.start r)
    (stopped : r.producer = .idle) (ownIdle : r.consumer own = .idle)
    (valid : p.threads.Valid) (storable : ThreadTable.Storable t.tid)
    (holds : p.slot? t.tid = some t.slot) {s : State}
    (run : Relation.ReflTransGen (Step t true) (.start r p) s) : Inv t r p s := by
  induction run with
  | refl => exact inv_start ring stopped ownIdle
  | tail _ step ih => exact ih.step valid storable holds step

/-- After the exit, no drain hands anything over, so nothing changes. -/
theorem Inv.still {s : State} (h : Inv t r p s) (at_ : s.pc = .done) :
    ∀ s', Step t true s s' → s'.profiler = s.profiler := by
  have progress := h.progress
  rw [at_] at progress
  obtain ⟨all, -⟩ := progress
  intro s' step
  cases step with
  | collect c _ step =>
    show s.profiler.takeSamples t.slot (handed s.ring _) = _
    rw [handed, step.delivered_eq_of_all (h.sound.step step) all, List.drop_length,
      Profiler.takeSamples_nil]
  | found at' | missing at' | drainStep at' | drainReturn at' | enter at' | skip at'
  | reconcile _ at' | remove at' =>
    exact Pc.noConfusion (at_.symm.trans at')

end Invariant

/-- **A thread's exit publishes its charges when its drain takes the ring's flag.** Start from a
ring that pushes and drains can reach, with no push under way and the thread's own drain idle,
and a valid table in which the thread holds its slot. In every interleaving of the exit with the
controller's drains, the thread is gone from the table once the exit is over. When the thread's
drain finds the flag clear, moreover:
* when the thread reconciles, the profiler is the one that attributing every buffered sample in
  order gives, so each sample of the selected line has charged the thread;
* once the exit is over, the profiler is where unregistering after those samples leaves it,
  during an experiment the global delay is at least the thread's delay with those charges, and
  no later step changes anything. -/
theorem exit_charges_before_reconciling {t : Exiting} {r : SampleRing.Shared} {p : Profiler}
    (ring : Relation.ReflTransGen SampleRing.Moves SampleRing.Shared.start r)
    (stopped : r.producer = .idle) (ownIdle : r.consumer own = .idle)
    (valid : p.threads.Valid) (storable : ThreadTable.Storable t.tid)
    (holds : p.slot? t.tid = some t.slot) :
    (∀ s, Relation.ReflTransGen (Step t false) (.start r p) s → s.pc = .done →
      s.profiler.slot? t.tid = none) ∧
    ∀ s, Relation.ReflTransGen (Step t true) (.start r p) s →
      (s.pc = .reconcile → s.profiler = p.takeSamples t.slot (buffered r)) ∧
      (s.pc = .done →
        (t.guarded = false →
          ∃ o, s.profiler = (p.takeSamples t.slot (buffered r)).unregisterAfter t.tid o) ∧
        (t.guarded = false → p.active = true →
          ((p.takeSamples t.slot (buffered r)).account t.slot).paid ≤ s.profiler.global) ∧
        ∀ s', Step t true s s' → s'.profiler = s.profiler) := by
  refine ⟨fun s run done => ?_, fun s run => ?_⟩
  · have keys := keys_of_run valid storable run
    rw [done] at keys
    exact keys.2
  · have inv := inv_of_run ring stopped ownIdle valid storable holds run
    have progress := inv.progress
    refine ⟨fun at_ => ?_, fun at_ => ?_⟩
    · rw [at_] at progress
      exact progress.2.2
    · have still := inv.still at_
      rw [at_] at progress
      obtain ⟨-, q', settled, profiler⟩ := progress
      refine ⟨fun free => ?_, fun free active => ?_, still⟩
      · -- the sequential exit finds the slot the thread held from the start
        obtain ⟨o, reconciled⟩ := settled.reconciled free
        refine ⟨o, ?_⟩
        rw [profiler, reconciled, Profiler.unregisterAfter,
          Profiler.slot?_takeSamples valid storable, holds]
      · obtain ⟨o, reconciled⟩ := settled.reconciled free
        rw [profiler, reconciled]
        exact Profiler.paid_le_global_addDelays ((Profiler.active_takeSamples p _).trans active) o

section Race

/-- A ring holding one accepted sample, at address 4096, with no drain under way. -/
def oneBuffered : SampleRing.Shared := SampleRing.Shared.start.pushSolo ⟨4096, []⟩

/-- An experiment on line 0, which holds address 4096, charging 200 per sample up to a cap of
1000, with thread 5 in slot 0 at the global delay 0. -/
def racing : Profiler :=
  { engine := { EngineSettings.default with maxDelayPerExperiment := 1000 },
    map := ⟨[⟨"hot.rs", 10, false⟩], [⟨4096, 4352, 0⟩]⟩, samples := [0],
    points := Registry.create 0, threads := ⟨[⟨.holds 5, ⟨0, 0⟩⟩]⟩, global := 0,
    delaySize := 200, active := true, roundStart := 0, selected := some 0, proposal := none,
    running := true, endToEnd := false }

/-- Thread 5 leaving slot 0 with its re-entry guard free. -/
def leaving : Exiting := ⟨5, 0, false⟩

theorem racing_valid : racing.threads.Valid :=
  (ThreadTable.represents_create 1 (⟨0, 0⟩ : ThreadDelay)).valid.insert (k := 5) (i := 0)
    (by decide) rfl

/-- The thread's drain takes the flag, and a controller's drain that tries meanwhile returns at
once. The thread's callback is charged 200 for the buffered sample, and its reconciliation
raises the global delay to 200. -/
theorem exit_drain_takes_flag :
    Relation.ReflTransGen SampleRing.Moves SampleRing.Shared.start oneBuffered ∧
      oneBuffered.producer = .idle ∧ oneBuffered.consumer own = .idle ∧ racing.threads.Valid ∧
      ThreadTable.Storable leaving.tid ∧ racing.slot? leaving.tid = some leaving.slot ∧
      (∃ s, Relation.ReflTransGen (Step leaving true) (.start oneBuffered racing) s ∧
        s.pc = .done ∧ s.profiler.global = 200) ∧
      (∀ s, Relation.ReflTransGen (Step leaving false) (.start oneBuffered racing) s →
        s.pc = .done → s.profiler.slot? leaving.tid = none) ∧
      ∀ s, Relation.ReflTransGen (Step leaving true) (.start oneBuffered racing) s →
        (s.pc = .reconcile →
          s.profiler = racing.takeSamples leaving.slot (buffered oneBuffered)) ∧
        (s.pc = .done →
          (leaving.guarded = false → ∃ o, s.profiler = (racing.takeSamples leaving.slot
            (buffered oneBuffered)).unregisterAfter leaving.tid o) ∧
          (leaving.guarded = false → racing.active = true →
            ((racing.takeSamples leaving.slot (buffered oneBuffered)).account leaving.slot).paid ≤
              s.profiler.global) ∧
          ∀ s', Step leaving true s s' → s'.profiler = s.profiler) := by
  have ring : Relation.ReflTransGen SampleRing.Moves SampleRing.Shared.start oneBuffered :=
    SampleRing.run_pushSolo rfl _
  have run : Relation.ReflTransGen (Step leaving true) (.start oneBuffered racing) _ :=
    .head (Step.found rfl rfl) <|
    .head (Step.drainStep rfl (.acquire 0 rfl rfl) fun same => by cases same) <|
    .head (Step.collect 1 (by decide) (.busy 1 rfl rfl)) <|
    .head (Step.drainStep rfl (.readTail 0 rfl) fun same => by cases same) <|
    .head (Step.drainStep rfl (.readHead 0 0 rfl) fun same => by cases same) <|
    .head (Step.drainStep rfl (.deliver 0 0 1 0 ⟨4096, []⟩ rfl (by decide) rfl)
      fun same => by cases same) <|
    .head (Step.drainStep rfl (.storeTail 0 0 1 rfl) fun same => by cases same) <|
    .head (Step.drainReturn rfl (.unlock 0 rfl) rfl fun _ same => by cases same) <|
    .head (Step.enter rfl rfl) <|
    .head (Step.reconcile 0 rfl) <|
    .single (Step.remove rfl)
  exact ⟨ring, rfl, rfl, racing_valid, by decide, rfl, ⟨_, run, rfl, by decide⟩,
    exit_charges_before_reconciling ring rfl rfl racing_valid (by decide) rfl⟩

/-- Without the condition the exit leaves its charges behind. A controller's drain takes the flag
first, so the thread's drain returns at once, and the thread reconciles at delay 0 and leaves the
table. The controller then hands the buffered sample over, and it charges the released slot 200,
above the global delay the thread published. -/
theorem charge_lands_after_exit :
    Relation.ReflTransGen SampleRing.Moves SampleRing.Shared.start oneBuffered ∧
      oneBuffered.producer = .idle ∧ oneBuffered.consumer own = .idle ∧ racing.threads.Valid ∧
      ThreadTable.Storable leaving.tid ∧ racing.slot? leaving.tid = some leaving.slot ∧
      leaving.guarded = false ∧ racing.active = true ∧
      ∃ s s', Relation.ReflTransGen (Step leaving false) (.start oneBuffered racing) s ∧
        s.pc = .done ∧
        s.profiler.global <
          ((racing.takeSamples leaving.slot (buffered oneBuffered)).account leaving.slot).paid ∧
        Step leaving false s s' ∧
        (s.profiler.account leaving.slot).paid < (s'.profiler.account leaving.slot).paid := by
  have run : Relation.ReflTransGen (Step leaving false) (.start oneBuffered racing) _ :=
    .head (Step.collect 1 (by decide) (.acquire 1 rfl rfl)) <|
    .head (Step.found rfl rfl) <|
    .head (Step.drainReturn rfl (.busy 0 rfl rfl) rfl fun never => by cases never) <|
    .head (Step.enter rfl rfl) <|
    .head (Step.reconcile 0 rfl) <|
    .head (Step.remove rfl) <|
    .head (Step.collect 1 (by decide) (.readTail 1 rfl)) <|
    .single (Step.collect 1 (by decide) (.readHead 1 0 rfl))
  exact ⟨SampleRing.run_pushSolo rfl _, rfl, rfl, racing_valid, by decide, rfl, rfl, rfl, _, _,
    run, rfl, by decide,
    Step.collect 1 (by decide) (.deliver 1 0 1 0 ⟨4096, []⟩ rfl (by decide) rfl), by decide⟩

end Race

end ThreadExit

end CausalProfiler
