import CausalProfiler.Sample
import Mathlib.Logic.Relation
import Mathlib.Logic.Function.Basic
/-!
# Sample rings under concurrent drains

One producer pushes samples into a ring while any number of consumers drain it, and each access
to head, tail, an entry or the draining flag is one atomic step (`Step`). A push loads head and
tail, and then either counts a drop or writes its entry and publishes it by storing head. A
drain sets the flag, loads tail and head, hands each entry between them to its callback, stores
tail and clears the flag; a consumer that finds the flag set returns at once.

The state records the samples of the pushes that returned true, the pushes that returned false,
the samples handed to callbacks, and the samples released by stored tails. `Sound` is the
invariant: head and tail are those counts modulo the word, the entries between them hold the
accepted samples not yet released, the delivered samples are a prefix of the accepted ones, and
`Pushing` and `Draining` say what each unfinished push and drain has seen. A push or a drain that
no other step interrupts does what `SampleRing.push` and `SampleRing.drain` do.

Main statements: `ring_delivers_accepted_samples`, and `dropped_count_wraps`: the drop count is a
word, so after `2 ^ 64` rejected pushes it reads zero again.
-/
namespace CausalProfiler.SampleRing

/-- Where the producer's push is. -/
inductive PushPc where
  | idle
  /-- A push of `smp` has loaded head `h`, and loads tail next. -/
  | head (smp : Sample) (h : Nat)
  /-- A rejected push counts the drop next. -/
  | drop
  /-- An accepted push writes the entry of count `h` next. -/
  | write (smp : Sample) (h : Nat)
  /-- It publishes that entry by storing head next. -/
  | publish (smp : Sample) (h : Nat)

/-- Where a consumer's drain is. -/
inductive DrainPc where
  | idle
  /-- Has set the flag, and loads tail next. -/
  | locked
  /-- Has loaded tail `t`, and loads head next. -/
  | tail (t : Nat)
  /-- Hands the entries of counts from `read` up to the head `h` it loaded to the callback. -/
  | reading (t h read : Nat)
  /-- Has stored tail, and clears the flag next. -/
  | unlocking

/-- The ring, the draining flag, where each party is, and what has happened. -/
@[ext]
structure Shared where
  ring : SampleRing
  draining : Bool
  producer : PushPc
  consumer : Nat → DrainPc
  /-- The samples of the pushes that returned true, in push order. -/
  accepted : List Sample
  /-- The number of pushes that returned false. -/
  rejected : Nat
  /-- The samples handed to drain callbacks, in order. -/
  delivered : List Sample
  /-- The number of samples released by drains that stored tail. -/
  released : Nat

namespace Shared

/-- A fresh ring, nobody at work. -/
def start : Shared := ⟨empty, false, .idle, fun _ => .idle, [], 0, [], 0⟩

/-- The pushes that have returned. -/
def pushes (s : Shared) : Nat := s.accepted.length + s.rejected

def setProducer (s : Shared) (p : PushPc) : Shared := { s with producer := p }

def setConsumer (s : Shared) (c : Nat) (p : DrainPc) : Shared :=
  { s with consumer := Function.update s.consumer c p }

end Shared

/-- Who takes a step. -/
inductive Actor where
  | producer
  | consumer (c : Nat)

/-- One atomic step of the producer or of a consumer. -/
inductive Step : Actor → Shared → Shared → Prop
  /-- The producer starts a push of `smp` by loading head. -/
  | loadHead {s : Shared} (smp : Sample) (idle : s.producer = .idle) :
      Step .producer s (s.setProducer (.head smp s.ring.head))
  /-- It loads tail and finds `capacity` samples waiting: the push is rejected. -/
  | reject {s : Shared} (smp : Sample) (h : Nat) (at_ : s.producer = .head smp h)
      (full : capacity ≤ Word.subWrap h s.ring.tail) :
      Step .producer s (s.setProducer .drop)
  /-- It loads tail and finds room: the push goes on to write its entry. -/
  | reserve {s : Shared} (smp : Sample) (h : Nat) (at_ : s.producer = .head smp h)
      (room : Word.subWrap h s.ring.tail < capacity) :
      Step .producer s (s.setProducer (.write smp h))
  /-- A rejected push adds one to the drop count, and returns false. -/
  | countDrop {s : Shared} (at_ : s.producer = .drop) :
      Step .producer s
        { s with ring := { s.ring with dropped := Word.addWrap s.ring.dropped 1 },
                 producer := .idle, rejected := s.rejected + 1 }
  /-- An accepted push writes its sample into the entry of count `h`. -/
  | writeEntry {s : Shared} (smp : Sample) (h : Nat) (at_ : s.producer = .write smp h) :
      Step .producer s
        { s with ring := { s.ring with entries := s.ring.entries.set (h % capacity) smp },
                 producer := .publish smp h }
  /-- It publishes the entry by storing head, and returns true. -/
  | publish {s : Shared} (smp : Sample) (h : Nat) (at_ : s.producer = .publish smp h) :
      Step .producer s
        { s with ring := { s.ring with head := Word.addWrap h 1 }, producer := .idle,
                 accepted := s.accepted ++ [smp] }
  /-- A consumer swaps the flag from clear to set, and begins its drain. -/
  | acquire {s : Shared} (c : Nat) (idle : s.consumer c = .idle) (free : s.draining = false) :
      Step (.consumer c) s { s.setConsumer c .locked with draining := true }
  /-- A consumer that swaps the flag while it is set returns at once, having taken nothing. -/
  | busy {s : Shared} (c : Nat) (idle : s.consumer c = .idle) (taken : s.draining = true) :
      Step (.consumer c) s s
  | readTail {s : Shared} (c : Nat) (at_ : s.consumer c = .locked) :
      Step (.consumer c) s (s.setConsumer c (.tail s.ring.tail))
  | readHead {s : Shared} (c t : Nat) (at_ : s.consumer c = .tail t) :
      Step (.consumer c) s (s.setConsumer c (.reading t s.ring.head t))
  /-- The drain loads the entry of count `read` and hands its sample to the callback. -/
  | deliver {s : Shared} (c t h read : Nat) (smp : Sample) (at_ : s.consumer c = .reading t h read)
      (more : read ≠ h) (entry : s.ring.entries[read % capacity]? = some smp) :
      Step (.consumer c) s
        { s.setConsumer c (.reading t h (Word.addWrap read 1)) with
          delivered := s.delivered ++ [smp] }
  /-- Having reached the head it loaded, the drain stores it as tail, releasing what it read. -/
  | storeTail {s : Shared} (c t h : Nat) (at_ : s.consumer c = .reading t h h) :
      Step (.consumer c) s
        { s.setConsumer c .unlocking with ring := { s.ring with tail := h },
                                          released := s.released + Word.subWrap h t }
  | unlock {s : Shared} (c : Nat) (at_ : s.consumer c = .unlocking) :
      Step (.consumer c) s { s.setConsumer c .idle with draining := false }

/-- A step of anyone. -/
def Moves (s s' : Shared) : Prop := ∃ a, Step a s s'

/-- A step of some consumer. -/
def Drains (s s' : Shared) : Prop := ∃ c, Step (.consumer c) s s'

theorem Drains.moves {s s' : Shared} : Drains s s' → Moves s s'
  | ⟨_, step⟩ => ⟨_, step⟩

section Words

theorem capacity_lt_size : capacity < Word.size := by decide

theorem mod_size_mod_capacity (a : Nat) : a % Word.size % capacity = a % capacity :=
  Nat.mod_mod_of_dvd a ⟨Nat.pow 2 59, rfl⟩

theorem addWrap_mod (a : Nat) : Word.addWrap (a % Word.size) 1 = (a + 1) % Word.size :=
  Nat.mod_add_mod a Word.size 1

/-- The wrapping difference of two counts taken modulo the word is their difference, when that is
less than a word. -/
theorem subWrap_mod {a b : Nat} (le : b ≤ a) (lt : a - b < Word.size) :
    Word.subWrap (a % Word.size) (b % Word.size) = a - b := by
  unfold Word.subWrap
  rw [Word.size_eq] at lt ⊢
  omega

/-- Two counts less than a word apart that agree modulo the word are equal. -/
theorem eq_of_mod_size {a b : Nat} (le : a ≤ b) (lt : b - a < Word.size)
    (same : a % Word.size = b % Word.size) : a = b := by
  rw [Word.size_eq] at lt same
  omega

/-- Fewer than `capacity` consecutive counts have distinct entries. -/
theorem mod_capacity_ne {j a : Nat} (lt : j < a) (near : a < j + capacity) :
    j % capacity ≠ a % capacity := by
  unfold capacity at near ⊢
  omega

end Words

section Invariant

variable {s : Shared}

/-- What an unfinished push has seen: the head it loaded counts the accepted samples, and an
accepted push found room, which stays, and writes its entry before it publishes. -/
def Pushing (s : Shared) : PushPc → Prop
  | .idle | .drop => True
  | .head _ h => h = s.accepted.length % Word.size
  | .write _ h => h = s.accepted.length % Word.size ∧ s.accepted.length < s.released + capacity
  | .publish smp h => h = s.accepted.length % Word.size ∧ s.accepted.length < s.released + capacity ∧
      s.ring.entries[s.accepted.length % capacity]? = some smp

/-- What an unfinished drain has seen: the tail it loaded counts the released samples, the head it
loaded counts `m` accepted samples past them, and it has delivered the first `n` of those. -/
def Draining (s : Shared) : DrainPc → Prop
  | .idle => True
  | .locked | .unlocking => s.delivered.length = s.released
  | .tail t => t = s.released % Word.size ∧ s.delivered.length = s.released
  | .reading t h read => t = s.released % Word.size ∧ ∃ m n, n ≤ m ∧ s.released + m ≤ s.accepted.length ∧
      h = (s.released + m) % Word.size ∧ read = (s.released + n) % Word.size ∧
      s.delivered.length = s.released + n

/-- The invariant of the interleavings. -/
structure Sound (s : Shared) : Prop where
  length : s.ring.entries.length = capacity
  head : s.ring.head = s.accepted.length % Word.size
  tail : s.ring.tail = s.released % Word.size
  released_le : s.released ≤ s.accepted.length
  le_capacity : s.accepted.length ≤ s.released + capacity
  /-- The entries between tail and head hold the accepted samples not yet released. -/
  stored : ∀ j (lt : j < s.accepted.length), s.released ≤ j →
    s.ring.entries[j % capacity]? = some s.accepted[j]
  delivered : s.delivered <+: s.accepted
  dropped : s.ring.dropped = s.rejected % Word.size
  /-- A drain under way holds the flag, and no other consumer is draining. -/
  lock : ∀ c, s.consumer c ≠ .idle → s.draining = true ∧ ∀ c', c' ≠ c → s.consumer c' = .idle
  /-- With the flag clear, every delivered sample is released. -/
  quiet : s.draining = false → s.delivered.length = s.released
  pushing : Pushing s s.producer
  drains : ∀ c, Draining s (s.consumer c)

theorem Pushing.frame {s' : Shared} {p : PushPc} (h : Pushing s p)
    (accepted : s'.accepted = s.accepted) (entries : s'.ring.entries = s.ring.entries)
    (grows : s.released ≤ s'.released) : Pushing s' p := by
  cases p with
  | idle | drop => trivial
  | head smp hd =>
    simp only [Pushing, accepted] at h ⊢
    exact h
  | write smp hd =>
    simp only [Pushing, accepted] at h ⊢
    exact ⟨h.1, by omega⟩
  | publish smp hd =>
    simp only [Pushing, accepted, entries] at h ⊢
    exact ⟨h.1, by omega, h.2.2⟩

theorem Draining.frame {s' : Shared} {p : DrainPc} (h : Draining s p)
    (delivered : s'.delivered = s.delivered) (released : s'.released = s.released)
    (grows : s.accepted.length ≤ s'.accepted.length) : Draining s' p := by
  cases p with
  | idle => trivial
  | locked | unlocking =>
    simp only [Draining, delivered, released] at h ⊢
    exact h
  | tail t =>
    simp only [Draining, delivered, released] at h ⊢
    exact h
  | reading t hd read =>
    simp only [Draining, delivered, released] at h ⊢
    obtain ⟨tail, m, n, le, within, head, at_, count⟩ := h
    exact ⟨tail, m, n, le, by omega, head, at_, count⟩

/-- After consumer `c` moves to `p` while every other consumer is idle, only `c` can be draining,
and the flag is set while it is. -/
theorem lock_update {s' : Shared} {c : Nat} {p : DrainPc}
    (others : ∀ c', c' ≠ c → s.consumer c' = .idle)
    (pc : s'.consumer = Function.update s.consumer c p) (flag : p ≠ .idle → s'.draining = true) :
    ∀ c', s'.consumer c' ≠ .idle → s'.draining = true ∧ ∀ c'', c'' ≠ c' → s'.consumer c'' = .idle := by
  intro c' busy
  have at_ : c' = c := by
    by_contra other
    rw [pc, Function.update_of_ne other, others c' other] at busy
    exact busy rfl
  subst at_
  refine ⟨flag fun idle => busy (by rw [pc, Function.update_self, idle]), fun c'' other => ?_⟩
  rw [pc, Function.update_of_ne other, others c'' other]

theorem drains_update {s' : Shared} {c : Nat} {p : DrainPc}
    (others : ∀ c', c' ≠ c → s.consumer c' = .idle)
    (pc : s'.consumer = Function.update s.consumer c p) (here : Draining s' p) :
    ∀ c', Draining s' (s'.consumer c') := by
  intro c'
  by_cases same : c' = c
  · subst same
    rw [pc, Function.update_self]
    exact here
  · rw [pc, Function.update_of_ne same, others c' same]
    trivial

theorem Sound.draining (h : Sound s) {c : Nat} {p : DrainPc} (at_ : s.consumer c = p) :
    Draining s p := by
  have drain := h.drains c
  rw [at_] at drain
  exact drain

theorem Sound.others (h : Sound s) {c : Nat} (busy : s.consumer c ≠ .idle) :
    ∀ c', c' ≠ c → s.consumer c' = .idle :=
  (h.lock c busy).2

theorem Sound.idle_of_free (h : Sound s) (free : s.draining = false) (c : Nat) :
    s.consumer c = .idle := by
  by_contra busy
  rw [(h.lock c busy).1] at free
  cases free

/-- The samples waiting in the ring are the accepted ones not yet released. -/
theorem Sound.pending (h : Sound s) : s.ring.pending = s.accepted.length - s.released := by
  have within := h.le_capacity
  have small := capacity_lt_size
  unfold SampleRing.pending
  rw [h.head, h.tail]
  exact subWrap_mod h.released_le (by omega)

/-- What the invariant says of the push the producer is in. -/
theorem Sound.push (h : Sound s) {p : PushPc} (at_ : s.producer = p) : Pushing s p := by
  have push := h.pushing
  rw [at_] at push
  exact push

/-- A push about to load tail will reject its sample exactly when `capacity` accepted samples are
not yet released. -/
theorem Sound.full_iff (h : Sound s) {smp : Sample} {hd : Nat} (at_ : s.producer = .head smp hd) :
    capacity ≤ Word.subWrap hd s.ring.tail ↔ s.accepted.length = s.released + capacity := by
  have loaded : hd = s.ring.head := by rw [h.head]; exact h.push at_
  have waiting : Word.subWrap hd s.ring.tail = s.accepted.length - s.released := by
    rw [loaded]
    exact h.pending
  have within := h.le_capacity
  have below := h.released_le
  rw [waiting]
  omega

theorem Sound.reject (h : Sound s) : Sound (s.setProducer .drop) :=
  ⟨h.length, h.head, h.tail, h.released_le, h.le_capacity, h.stored, h.delivered, h.dropped,
    h.lock, h.quiet, trivial, fun c => (h.drains c).frame rfl rfl (Nat.le_refl _)⟩

/-- A push that found room keeps it until it publishes. -/
theorem Sound.reserve (h : Sound s) {smp : Sample} {hd : Nat} (at_ : s.producer = .head smp hd)
    (room : Word.subWrap hd s.ring.tail < capacity) : Sound (s.setProducer (.write smp hd)) := by
  have free : s.accepted.length ≠ s.released + capacity :=
    fun eq => Nat.not_le_of_lt room ((h.full_iff at_).mpr eq)
  have within := h.le_capacity
  exact ⟨h.length, h.head, h.tail, h.released_le, h.le_capacity, h.stored, h.delivered, h.dropped,
    h.lock, h.quiet, ⟨h.push at_, show s.accepted.length < s.released + capacity by omega⟩,
    fun c => (h.drains c).frame rfl rfl (Nat.le_refl _)⟩

theorem Sound.countDrop (h : Sound s) :
    Sound { s with ring := { s.ring with dropped := Word.addWrap s.ring.dropped 1 },
                   producer := .idle, rejected := s.rejected + 1 } := by
  refine ⟨h.length, h.head, h.tail, h.released_le, h.le_capacity, h.stored, h.delivered, ?_, h.lock,
    h.quiet, trivial, fun c => (h.drains c).frame rfl rfl (Nat.le_refl _)⟩
  show Word.addWrap s.ring.dropped 1 = (s.rejected + 1) % Word.size
  rw [h.dropped, addWrap_mod]

/-- Writing the entry of the next count leaves the entries of the accepted samples not yet
released, since fewer than `capacity` of them wait. -/
theorem Sound.writeEntry (h : Sound s) {smp : Sample} {hd : Nat} (at_ : s.producer = .write smp hd) :
    Sound { s with ring := { s.ring with entries := s.ring.entries.set (hd % capacity) smp },
                   producer := .publish smp hd } := by
  obtain ⟨loaded, room⟩ := h.push at_
  have slot : hd % capacity = s.accepted.length % capacity := by
    rw [loaded, mod_size_mod_capacity]
  refine ⟨by simp [h.length], h.head, h.tail, h.released_le, h.le_capacity,
    fun j (lt : j < s.accepted.length) (old : s.released ≤ j) => ?_,
    h.delivered, h.dropped, h.lock, h.quiet, ⟨loaded, room, ?_⟩,
    fun c => (h.drains c).frame rfl rfl (Nat.le_refl _)⟩
  · show (s.ring.entries.set (hd % capacity) smp)[j % capacity]? = some s.accepted[j]
    rw [slot, List.getElem?_set_ne (mod_capacity_ne lt (by omega)).symm]
    exact h.stored j lt old
  · show (s.ring.entries.set (hd % capacity) smp)[s.accepted.length % capacity]? = some smp
    have inside : s.accepted.length % capacity < s.ring.entries.length := by
      rw [h.length]
      exact Nat.mod_lt _ (by decide)
    rw [slot, List.getElem?_set_self inside]

/-- Publishing the written entry accepts its sample. -/
theorem Sound.publish (h : Sound s) {smp : Sample} {hd : Nat} (at_ : s.producer = .publish smp hd) :
    Sound { s with ring := { s.ring with head := Word.addWrap hd 1 }, producer := .idle,
                   accepted := s.accepted ++ [smp] } := by
  obtain ⟨loaded, room, written⟩ := h.push at_
  have below := h.released_le
  refine ⟨h.length, ?_, h.tail, by simp; omega, by simp; omega, fun j lt old => ?_,
    h.delivered.trans (List.prefix_append _ _), h.dropped, h.lock, h.quiet, trivial,
    fun c => (h.drains c).frame rfl rfl (by simp)⟩
  · show Word.addWrap hd 1 = (s.accepted ++ [smp]).length % Word.size
    rw [loaded, addWrap_mod, List.length_append, List.length_singleton]
  · show s.ring.entries[j % capacity]? = some (s.accepted ++ [smp])[j]
    rw [List.length_append, List.length_singleton] at lt
    rcases Nat.lt_succ_iff_lt_or_eq.mp lt with earlier | last
    · rw [List.getElem_append_left earlier]
      exact h.stored j earlier old
    · subst last
      rw [List.getElem_append_right (Nat.le_refl _)]
      simpa using written

theorem Sound.acquire (h : Sound s) {c : Nat} (free : s.draining = false) :
    Sound { s.setConsumer c .locked with draining := true } := by
  have others : ∀ c', c' ≠ c → s.consumer c' = .idle := fun c' _ => h.idle_of_free free c'
  exact ⟨h.length, h.head, h.tail, h.released_le, h.le_capacity, h.stored, h.delivered, h.dropped,
    lock_update others rfl fun _ => rfl, fun taken => (by cases taken),
    h.pushing.frame rfl rfl (Nat.le_refl _), drains_update others rfl (h.quiet free)⟩

/-- A step of a drain under way, which keeps the flag and moves only the drain, keeps the
invariant when the drain's new position is one it can be in. -/
theorem Sound.moveDrain (h : Sound s) {c : Nat} {p : DrainPc} (busy : s.consumer c ≠ .idle)
    (here : Draining s p) : Sound (s.setConsumer c p) :=
  ⟨h.length, h.head, h.tail, h.released_le, h.le_capacity, h.stored, h.delivered, h.dropped,
    lock_update (h.others busy) rfl fun _ => (h.lock c busy).1, h.quiet,
    h.pushing.frame rfl rfl (Nat.le_refl _),
    drains_update (h.others busy) rfl (here.frame rfl rfl (Nat.le_refl _))⟩

theorem Sound.readTail (h : Sound s) {c : Nat} (at_ : s.consumer c = .locked) :
    Sound (s.setConsumer c (.tail s.ring.tail)) :=
  h.moveDrain (by rw [at_]; exact fun same => by cases same) ⟨h.tail, h.draining at_⟩

/-- The head a drain loads counts the accepted samples. -/
theorem Sound.readHead (h : Sound s) {c t : Nat} (at_ : s.consumer c = .tail t) :
    Sound (s.setConsumer c (.reading t s.ring.head t)) := by
  obtain ⟨tail, count⟩ := h.draining at_
  have below := h.released_le
  refine h.moveDrain (by rw [at_]; exact fun same => by cases same)
    ⟨tail, s.accepted.length - s.released, 0, Nat.zero_le _, by omega, ?_, tail, count⟩
  rw [h.head, Nat.add_sub_cancel' below]

/-- A drain that has not reached the head it loaded reads an accepted sample that is not yet
released, and hands on the next accepted sample after those it delivered. -/
theorem Sound.deliver (h : Sound s) {c t hd read : Nat} {smp : Sample}
    (at_ : s.consumer c = .reading t hd read) (more : read ≠ hd)
    (entry : s.ring.entries[read % capacity]? = some smp) :
    Sound { s.setConsumer c (.reading t hd (Word.addWrap read 1)) with
            delivered := s.delivered ++ [smp] } := by
  obtain ⟨tail, m, n, le, within, head, reading, count⟩ := h.draining at_
  have busy : s.consumer c ≠ .idle := by rw [at_]; exact fun same => by cases same
  have short : n < m := by
    refine Nat.lt_of_le_of_ne le fun same => more ?_
    rw [reading, head, same]
  have lt : s.released + n < s.accepted.length := by omega
  -- the entry read holds the accepted sample of count `released + n`
  have read_sample : smp = s.accepted[s.released + n] := by
    have stored := h.stored (s.released + n) lt (Nat.le_add_right _ _)
    rw [reading, mod_size_mod_capacity, stored] at entry
    exact (Option.some.inj entry).symm
  have taken : s.delivered = s.accepted.take (s.released + n) := by
    rw [← count]
    exact List.prefix_iff_eq_take.mp h.delivered
  refine ⟨h.length, h.head, h.tail, h.released_le, h.le_capacity, h.stored, ?_, h.dropped,
    lock_update (h.others busy) rfl fun _ => (h.lock c busy).1,
    fun free => absurd ((h.lock c busy).1.symm.trans free) (by decide),
    h.pushing.frame rfl rfl (Nat.le_refl _), drains_update (h.others busy) rfl ?_⟩
  · show s.delivered ++ [smp] <+: s.accepted
    rw [taken, read_sample, ← List.take_succ_eq_append_getElem lt]
    exact List.take_prefix _ _
  · refine ⟨tail, m, n + 1, short, within, head, ?_, ?_⟩
    · show Word.addWrap read 1 = (s.released + (n + 1)) % Word.size
      rw [reading, addWrap_mod, Nat.add_assoc]
    · show (s.delivered ++ [smp]).length = s.released + (n + 1)
      rw [List.length_append, count, List.length_singleton, Nat.add_assoc]

/-- A drain that has reached the head it loaded read `m` counts past the released samples, which
is what the wrapping difference of its head and tail gives, and delivered all of them. -/
theorem Sound.finished (h : Sound s) {c t hd : Nat} (at_ : s.consumer c = .reading t hd hd) :
    ∃ m, s.released + m ≤ s.accepted.length ∧ hd = (s.released + m) % Word.size ∧
      Word.subWrap hd t = m ∧ s.delivered.length = s.released + m := by
  obtain ⟨tail, m, n, le, within, head, reading, count⟩ := h.draining at_
  have bound := h.le_capacity
  have small := capacity_lt_size
  have all : n = m := by
    have same := eq_of_mod_size (Nat.add_le_add_left le _) (by omega) (reading.symm.trans head)
    omega
  refine ⟨m, within, head, ?_, by rw [count, all]⟩
  rw [head, tail, subWrap_mod (Nat.le_add_right _ _) (by omega), Nat.add_sub_cancel_left]

/-- A drain that has reached the head it loaded has delivered every sample it counted, and storing
that head as tail releases them. -/
theorem Sound.storeTail (h : Sound s) {c t hd : Nat} (at_ : s.consumer c = .reading t hd hd) :
    Sound { s.setConsumer c .unlocking with ring := { s.ring with tail := hd },
                                            released := s.released + Word.subWrap hd t } := by
  obtain ⟨m, within, head, counted, all⟩ := h.finished at_
  have busy : s.consumer c ≠ .idle := by rw [at_]; exact fun same => by cases same
  have bound := h.le_capacity
  have released : s.released + Word.subWrap hd t = s.released + m := by rw [counted]
  refine ⟨h.length, ?_, ?_, ?_, ?_, fun j lt newer => ?_, h.delivered, h.dropped,
    lock_update (h.others busy) rfl fun _ => (h.lock c busy).1,
    fun free => absurd ((h.lock c busy).1.symm.trans free) (by decide),
    h.pushing.frame rfl rfl (by show s.released ≤ s.released + _; omega),
    drains_update (h.others busy) rfl ?_⟩
  · exact h.head
  · show hd = (s.released + Word.subWrap hd t) % Word.size
    rw [released, head]
  · show s.released + Word.subWrap hd t ≤ s.accepted.length
    omega
  · show s.accepted.length ≤ s.released + Word.subWrap hd t + capacity
    omega
  · exact h.stored j lt (by simp only at newer; omega)
  · show s.delivered.length = s.released + Word.subWrap hd t
    rw [released, all]

/-- Clearing the flag ends the drain, with every delivered sample released. -/
theorem Sound.unlock (h : Sound s) {c : Nat} (at_ : s.consumer c = .unlocking) :
    Sound { s.setConsumer c .idle with draining := false } := by
  have busy : s.consumer c ≠ .idle := by rw [at_]; exact fun same => by cases same
  exact ⟨h.length, h.head, h.tail, h.released_le, h.le_capacity, h.stored, h.delivered, h.dropped,
    lock_update (h.others busy) rfl fun idle => absurd rfl idle, fun _ => h.draining at_,
    h.pushing.frame rfl rfl (Nat.le_refl _), drains_update (h.others busy) rfl trivial⟩

/-- Every step keeps the invariant. -/
theorem Sound.step (h : Sound s) {a : Actor} {s' : Shared} (step : Step a s s') : Sound s' := by
  cases step with
  | loadHead smp idle =>
    exact ⟨h.length, h.head, h.tail, h.released_le, h.le_capacity, h.stored, h.delivered, h.dropped,
      h.lock, h.quiet, h.head, fun c => (h.drains c).frame rfl rfl (Nat.le_refl _)⟩
  | reject smp hd at_ full => exact h.reject
  | reserve smp hd at_ room => exact h.reserve at_ room
  | countDrop at_ => exact h.countDrop
  | writeEntry smp hd at_ => exact h.writeEntry at_
  | publish smp hd at_ => exact h.publish at_
  | acquire c idle free => exact h.acquire free
  | busy c idle taken => exact h
  | readTail c at_ => exact h.readTail at_
  | readHead c t at_ => exact h.readHead at_
  | deliver c t hd read smp at_ more entry => exact h.deliver at_ more entry
  | storeTail c t hd at_ => exact h.storeTail at_
  | unlock c at_ => exact h.unlock at_

theorem sound_start : Sound Shared.start := by
  refine ⟨by simp [Shared.start, empty], rfl, rfl, (Nat.le_refl _), Nat.zero_le _,
    fun j lt => absurd lt (Nat.not_lt_zero j), List.prefix_refl _, rfl, fun c busy => absurd rfl busy,
    fun _ => rfl, trivial, fun c => trivial⟩

/-- Every state that steps reach from a fresh ring satisfies the invariant. -/
theorem sound_of_run (run : Relation.ReflTransGen Moves Shared.start s) : Sound s := by
  induction run with
  | refl => exact sound_start
  | tail _ step sound =>
    obtain ⟨a, step⟩ := step
    exact sound.step step

end Invariant

section Flush

variable {s : Shared}

/-- The invariant of the drains after the producer has stopped and a drain has begun: every head a
drain loads counts all accepted samples, so a drain that has stored tail has released them all,
and so has the last drain whenever the flag is clear again. -/
structure Flushing (s : Shared) : Prop where
  idle : s.producer = .idle
  heads : ∀ c t hd read, s.consumer c = .reading t hd read → hd = s.accepted.length % Word.size
  unlocking : ∀ c, s.consumer c = .unlocking → s.released = s.accepted.length
  quiet : s.draining = false → s.released = s.accepted.length

theorem accepted_of_drain {c : Nat} {s' : Shared} (step : Step (.consumer c) s s') :
    s'.accepted = s.accepted := by
  cases step <;> rfl

/-- A step of consumer `c`, while every other consumer is idle, keeps `Flushing` when `c`'s new
position and the flag agree with it. -/
theorem Flushing.update {s' : Shared} {c : Nat} {p : DrainPc} (idle : s'.producer = .idle)
    (others : ∀ c', c' ≠ c → s.consumer c' = .idle)
    (pc : s'.consumer = Function.update s.consumer c p)
    (heads : ∀ t hd read, p = .reading t hd read → hd = s'.accepted.length % Word.size)
    (unlocking : p = .unlocking → s'.released = s'.accepted.length)
    (quiet : s'.draining = false → s'.released = s'.accepted.length) : Flushing s' := by
  have moved : ∀ c', s'.consumer c' ≠ .idle → c' = c ∧ s'.consumer c' = p := by
    intro c' busy
    by_cases same : c' = c
    · subst same
      rw [pc, Function.update_self] at busy ⊢
      exact ⟨rfl, rfl⟩
    · rw [pc, Function.update_of_ne same, others c' same] at busy
      exact absurd rfl busy
  refine ⟨idle, fun c' t hd read at_ => ?_, fun c' at_ => ?_, quiet⟩
  · obtain ⟨-, here⟩ := moved c' (by rw [at_]; exact fun same => by cases same)
    exact heads t hd read (here.symm.trans at_)
  · obtain ⟨-, here⟩ := moved c' (by rw [at_]; exact fun same => by cases same)
    exact unlocking (here.symm.trans at_)

/-- The first step of a drain after the producer has stopped, with no drain under way, sets the
flag. -/
theorem Sound.flushing_of_quiet (sound : Sound s) (idle : s.producer = .idle)
    (free : s.draining = false) {c : Nat} {s' : Shared} (step : Step (.consumer c) s s') :
    Flushing s' := by
  have quiet := sound.idle_of_free free
  cases step with
  | acquire c _ _ =>
    exact Flushing.update idle (fun c' _ => quiet c') rfl (fun _ _ _ same => by cases same)
      (fun same => by cases same) (fun taken => by cases taken)
  | busy c _ taken =>
    rw [free] at taken
    cases taken
  | readTail c at_ | readHead c _ at_ | deliver c _ _ _ _ at_ _ _ | storeTail c _ _ at_
  | unlock c at_ =>
    rw [quiet c] at at_
    cases at_

/-- Steps of drains keep `Flushing`. -/
theorem Flushing.step (h : Flushing s) (sound : Sound s) {c : Nat} {s' : Shared}
    (step : Step (.consumer c) s s') : Flushing s' := by
  cases step with
  | acquire c _ free =>
    exact Flushing.update h.idle (fun c' _ => sound.idle_of_free free c') rfl
      (fun _ _ _ same => by cases same) (fun same => by cases same) (fun taken => by cases taken)
  | busy => exact h
  | readTail c at_ =>
    have busy : s.consumer c ≠ .idle := by rw [at_]; exact fun same => by cases same
    exact Flushing.update h.idle (sound.others busy) rfl (fun _ _ _ same => by cases same)
      (fun same => by cases same) h.quiet
  | readHead c t at_ =>
    have busy : s.consumer c ≠ .idle := by rw [at_]; exact fun same => by cases same
    refine Flushing.update h.idle (sound.others busy) rfl (fun _ _ _ same => ?_)
      (fun same => by cases same) h.quiet
    cases same
    exact sound.head
  | deliver c t hd read smp at_ _ _ =>
    have busy : s.consumer c ≠ .idle := by rw [at_]; exact fun same => by cases same
    refine Flushing.update h.idle (sound.others busy) rfl (fun _ _ _ same => ?_)
      (fun same => by cases same) h.quiet
    cases same
    exact h.heads c t hd read at_
  | storeTail c t hd at_ =>
    -- the head this drain loaded counts every accepted sample, and it read up to it
    have busy : s.consumer c ≠ .idle := by rw [at_]; exact fun same => by cases same
    obtain ⟨m, within, head, counted, -⟩ := sound.finished at_
    have bound := sound.le_capacity
    have small := capacity_lt_size
    have all : s.released + m = s.accepted.length :=
      eq_of_mod_size within (by omega) (head.symm.trans (h.heads c t hd hd at_))
    refine Flushing.update h.idle (sound.others busy) rfl (fun _ _ _ same => by cases same)
      (fun _ => ?_) (fun free => absurd ((sound.lock c busy).1.symm.trans free) (by decide))
    show s.released + Word.subWrap hd t = s.accepted.length
    rw [counted, all]
  | unlock c at_ =>
    have busy : s.consumer c ≠ .idle := by rw [at_]; exact fun same => by cases same
    exact Flushing.update h.idle (sound.others busy) rfl (fun _ _ _ same => by cases same)
      (fun same => by cases same) fun _ => h.unlocking c at_

/-- Drains that begin after the producer has stopped, with no drain under way, keep the
invariant and `Flushing`, and accept nothing. -/
theorem Sound.flushing_of_drains (sound : Sound s) (idle : s.producer = .idle)
    (free : s.draining = false) {s' : Shared} (run : Relation.TransGen Drains s s') :
    Sound s' ∧ Flushing s' ∧ s'.accepted = s.accepted := by
  induction run with
  | single step =>
    obtain ⟨c, step⟩ := step
    exact ⟨sound.step step, sound.flushing_of_quiet idle free step, accepted_of_drain step⟩
  | tail _ step ih =>
    obtain ⟨c, step⟩ := step
    obtain ⟨sound', flushing, accepted⟩ := ih
    exact ⟨sound'.step step, flushing.step sound' step, (accepted_of_drain step).trans accepted⟩

/-- Once the producer has stopped and no drain is under way, every interleaving of drains that
clears the flag again has handed exactly the accepted samples to the callbacks. -/
theorem Sound.final_drain (sound : Sound s) (idle : s.producer = .idle) (free : s.draining = false)
    {s' : Shared} (run : Relation.TransGen Drains s s') (clear : s'.draining = false) :
    s'.delivered = s.accepted := by
  obtain ⟨sound', flushing, accepted⟩ := sound.flushing_of_drains idle free run
  rw [← accepted]
  exact sound'.delivered.eq_of_length (by rw [sound'.quiet clear, flushing.quiet clear])

end Flush

section Solo

variable {s : Shared}

/-- The state after a push of `smp` that no other step interrupts. -/
def Shared.pushSolo (s : Shared) (smp : Sample) : Shared :=
  if capacity ≤ s.ring.pending then
    { s with ring := { s.ring with dropped := Word.addWrap s.ring.dropped 1 },
             rejected := s.rejected + 1 }
  else
    { s with ring := { s.ring with entries := s.ring.entries.set (s.ring.head % capacity) smp,
                                   head := Word.addWrap s.ring.head 1 },
             accepted := s.accepted ++ [smp] }

/-- The state after a drain that no other step interrupts. -/
def Shared.drainSolo (s : Shared) : Shared :=
  { s with ring := s.ring.drain.2, delivered := s.delivered ++ s.ring.drain.1,
           released := s.released + s.ring.pending }

/-- An uninterrupted push leaves the ring as `SampleRing.push` does, and accepts its sample
exactly when that answers true. -/
theorem pushSolo_ring (s : Shared) (smp : Sample) :
    (s.pushSolo smp).ring = (s.ring.push smp).2 ∧
    ((s.pushSolo smp).accepted = s.accepted ++ [smp] ↔ (s.ring.push smp).1 = true) := by
  unfold Shared.pushSolo SampleRing.push
  by_cases full : capacity ≤ s.ring.pending
  · simp [full]
  · simp [full]

/-- An uninterrupted drain leaves the ring as `SampleRing.drain` does, and hands its samples to
the callback. -/
theorem drainSolo_ring (s : Shared) :
    s.drainSolo.ring = s.ring.drain.2 ∧ s.drainSolo.delivered = s.delivered ++ s.ring.drain.1 :=
  ⟨rfl, rfl⟩

theorem pushSolo_producer (smp : Sample) : (s.pushSolo smp).producer = s.producer := by
  unfold Shared.pushSolo
  split <;> rfl

theorem run_pushSolo (idle : s.producer = .idle) (smp : Sample) :
    Relation.ReflTransGen Moves s (s.pushSolo smp) := by
  obtain ⟨r, draining, producer, consumer, accepted, rejected, delivered, released⟩ := s
  subst idle
  unfold Shared.pushSolo
  refine .head ⟨_, .loadHead smp rfl⟩ ?_
  by_cases full : capacity ≤ r.pending
  · -- the ring is full: the drop is counted
    rw [if_pos full]
    exact .head ⟨_, .reject smp r.head rfl full⟩ (.single ⟨_, .countDrop rfl⟩)
  · -- there is room: the entry is written and published
    rw [if_neg full]
    exact .head ⟨_, .reserve smp r.head rfl (Nat.lt_of_not_le full)⟩
      (.head ⟨_, .writeEntry smp r.head rfl⟩ (.single ⟨_, .publish smp r.head rfl⟩))

theorem producer_foldl_pushSolo (smps : List Sample) :
    ∀ s : Shared, (smps.foldl Shared.pushSolo s).producer = s.producer := by
  induction smps with
  | nil => exact fun _ => rfl
  | cons smp smps ih => exact fun s => (ih _).trans (pushSolo_producer smp)

theorem run_pushes (smps : List Sample) :
    ∀ s : Shared, s.producer = .idle → Relation.ReflTransGen Moves s (smps.foldl Shared.pushSolo s) := by
  induction smps with
  | nil => exact fun _ _ => .refl
  | cons smp smps ih =>
    intro s idle
    exact (run_pushSolo idle smp).trans (ih _ ((pushSolo_producer smp).trans idle))

/-- A drain at the entry of count `t + i` hands the entries of the next `k` counts to the
callback, when the head it loaded lies `k` counts on. -/
theorem run_deliver {c t h : Nat} (k : Nat) : ∀ (s : Shared) (i : Nat),
    s.consumer c = .reading t h ((t + i) % Word.size) → s.ring.entries.length = capacity →
    (t + i + k) % Word.size = h → (∀ j < k, (t + i + j) % Word.size ≠ h) →
    Relation.ReflTransGen Drains s
      { s.setConsumer c (.reading t h h) with
        delivered := s.delivered ++
          (List.range' i k).filterMap fun j => s.ring.entries[(t + j) % capacity]? } := by
  induction k with
  | zero =>
    intro s i at_ _ stop _
    -- the drain is at the head already
    refine Eq.mp (congrArg (Relation.ReflTransGen Drains s) ?_) .refl
    refine Shared.ext rfl rfl rfl ?_ rfl rfl (List.append_nil _).symm rfl
    show s.consumer = Function.update s.consumer c (.reading t h h)
    rw [eq_comm, Function.update_eq_self_iff, at_, ← stop, Nat.add_zero]
  | succ k ih =>
    intro s i at_ len stop before
    have inside : (t + i) % Word.size % capacity < s.ring.entries.length := by
      rw [len]
      exact Nat.mod_lt _ (by decide)
    have read : s.ring.entries[(t + i) % capacity]? =
        some s.ring.entries[(t + i) % Word.size % capacity] := by
      rw [← mod_size_mod_capacity]
      exact List.getElem?_eq_getElem inside
    have more : (t + i) % Word.size ≠ h := by
      have first := before 0 (Nat.succ_pos k)
      rwa [Nat.add_zero] at first
    have first : Drains s { s.setConsumer c (.reading t h (Word.addWrap ((t + i) % Word.size) 1)) with
        delivered := s.delivered ++ [s.ring.entries[(t + i) % Word.size % capacity]] } :=
      ⟨c, .deliver c t h _ _ at_ more (List.getElem?_eq_getElem inside)⟩
    have next : (t + i + (k + 1)) = t + (i + 1) + k := by omega
    have rest := ih { s.setConsumer c (.reading t h (Word.addWrap ((t + i) % Word.size) 1)) with
        delivered := s.delivered ++ [s.ring.entries[(t + i) % Word.size % capacity]] } (i + 1)
      (by
        show Function.update s.consumer c _ c = _
        rw [Function.update_self, addWrap_mod, Nat.add_assoc])
      len (by rw [← next]; exact stop)
      (fun j lt => by
        have shifted : t + (i + 1) + j = t + i + (j + 1) := by omega
        rw [shifted]
        exact before (j + 1) (by omega))
    refine .head first (Eq.mp (congrArg (Relation.ReflTransGen Drains _) ?_) rest)
    refine Shared.ext rfl rfl rfl (Function.update_idem _ _ _) rfl rfl ?_ rfl
    show s.delivered ++ [s.ring.entries[(t + i) % Word.size % capacity]] ++
        (List.range' (i + 1) k).filterMap (fun j => s.ring.entries[(t + j) % capacity]?) =
      s.delivered ++ (List.range' i (k + 1)).filterMap (fun j => s.ring.entries[(t + j) % capacity]?)
    rw [List.range'_succ, List.filterMap_cons_some (f := fun j => s.ring.entries[(t + j) % capacity]?) read,
      List.append_assoc, List.singleton_append]

/-- Counting from `t`, the head `h` is the first count that the wrapping difference reaches. -/
theorem subWrap_reaches {t h : Nat} (tWord : t < Word.size) (hWord : h < Word.size) :
    (t + Word.subWrap h t) % Word.size = h ∧ ∀ j < Word.subWrap h t, (t + j) % Word.size ≠ h := by
  unfold Word.subWrap
  rw [Word.size_eq] at tWord hWord ⊢
  constructor
  · omega
  · intro j lt
    omega

theorem run_drainSolo {c : Nat} (idle : s.consumer c = .idle) (free : s.draining = false)
    (len : s.ring.entries.length = capacity) (headWord : s.ring.head < Word.size)
    (tailWord : s.ring.tail < Word.size) : Relation.TransGen Drains s s.drainSolo := by
  obtain ⟨reaches, before⟩ := subWrap_reaches tailWord headWord
  have started : Relation.ReflTransGen Drains s
      ((({ s.setConsumer c .locked with draining := true }).setConsumer c (.tail s.ring.tail)).setConsumer
        c (.reading s.ring.tail s.ring.head s.ring.tail)) :=
    .head ⟨c, .acquire c idle free⟩ (.head ⟨c, .readTail c (Function.update_self _ _ _)⟩
      (.single ⟨c, .readHead c _ (Function.update_self _ _ _)⟩))
  have read := started.trans (run_deliver (c := c) (t := s.ring.tail) (h := s.ring.head)
    s.ring.pending _ 0
    (by
      show Function.update _ c _ c = _
      rw [Function.update_self, Nat.add_zero, Nat.mod_eq_of_lt tailWord])
    len (by rw [Nat.add_zero]; exact reaches) (fun j lt => before j lt))
  have stored := read.tail ⟨c, .storeTail c _ _ (Function.update_self _ _ _)⟩
  refine Eq.mp (congrArg (Relation.TransGen Drains s) ?_)
    (Relation.TransGen.tail' stored ⟨c, .unlock c (Function.update_self _ _ _)⟩)
  refine Shared.ext rfl free.symm rfl ?_ rfl rfl ?_ rfl
  · simp only [Shared.setConsumer, Shared.drainSolo, Function.update_idem,
      Function.update_eq_self_iff, idle]
  · simp only [Shared.setConsumer, Shared.drainSolo, SampleRing.drain, waiting,
      List.range_eq_range']

end Solo

/-- However one producer's push steps and any consumers' drain steps interleave, the samples
handed to drain callbacks are the accepted samples in push order, each once, so far. Once the
producer stops with no drain under way, a final drain can run, and any interleaving of drains that
clears the flag again has delivered exactly the accepted samples. The drop count is the number of
rejected pushes modulo the word, and a push that loads tail is rejected exactly when `capacity`
accepted samples are not yet released. -/
theorem ring_delivers_accepted_samples {s : Shared}
    (run : Relation.ReflTransGen Moves Shared.start s) :
    s.delivered <+: s.accepted ∧
    (s.producer = .idle → s.draining = false →
      Relation.TransGen Drains s s.drainSolo ∧
      ∀ s', Relation.TransGen Drains s s' → s'.draining = false → s'.delivered = s.accepted) ∧
    s.ring.dropped = s.rejected % Word.size ∧
    ∀ smp h, s.producer = .head smp h →
      (capacity ≤ Word.subWrap h s.ring.tail ↔ s.accepted.length = s.released + capacity) := by
  have sound := sound_of_run run
  have positive : 0 < Word.size := by decide
  refine ⟨sound.delivered, fun idle free => ⟨?_, fun s' drains clear =>
    sound.final_drain idle free drains clear⟩, sound.dropped, fun smp h at_ => sound.full_iff at_⟩
  refine run_drainSolo (c := 0) (sound.idle_of_free free 0) free sound.length ?_ ?_
  · rw [sound.head]
    exact Nat.mod_lt _ positive
  · rw [sound.tail]
    exact Nat.mod_lt _ positive

/-- A fresh ring after two pushes. -/
def twoPushed : Shared := [⟨4096, [8192]⟩, ⟨4100, []⟩].foldl Shared.pushSolo Shared.start

/-- Two samples pushed and drained, and a third pushed after the drain. -/
def drainedBetweenPushes : Shared := twoPushed.drainSolo.pushSolo ⟨4104, [8200, 8300]⟩

theorem drained_between_pushes_delivers_accepted :
    Relation.ReflTransGen Moves Shared.start drainedBetweenPushes ∧
    drainedBetweenPushes.delivered <+: drainedBetweenPushes.accepted ∧
    (drainedBetweenPushes.producer = .idle → drainedBetweenPushes.draining = false →
      Relation.TransGen Drains drainedBetweenPushes drainedBetweenPushes.drainSolo ∧
      ∀ s', Relation.TransGen Drains drainedBetweenPushes s' → s'.draining = false →
        s'.delivered = drainedBetweenPushes.accepted) ∧
    drainedBetweenPushes.ring.dropped = drainedBetweenPushes.rejected % Word.size ∧
    ∀ smp h, drainedBetweenPushes.producer = .head smp h →
      (capacity ≤ Word.subWrap h drainedBetweenPushes.ring.tail ↔
        drainedBetweenPushes.accepted.length = drainedBetweenPushes.released + capacity) :=
  have pushed : Relation.ReflTransGen Moves Shared.start twoPushed :=
    run_pushes _ Shared.start rfl
  have drained : Relation.TransGen Drains twoPushed twoPushed.drainSolo :=
    run_drainSolo (c := 0) rfl rfl (by decide) (by decide) (by decide)
  have run : Relation.ReflTransGen Moves Shared.start drainedBetweenPushes :=
    pushed.trans ((Relation.ReflTransGen.mono (fun _ _ => Drains.moves) _ _
      drained.to_reflTransGen).trans (run_pushSolo rfl _))
  ⟨run, ring_delivers_accepted_samples run⟩

/-- Pushes into a full ring are all rejected, and the drop count runs on modulo the word. -/
theorem run_rejections {s : Shared} (idle : s.producer = .idle) (full : capacity ≤ s.ring.pending)
    (word : s.ring.dropped < Word.size) (smp : Sample) (n : Nat) :
    Relation.ReflTransGen Moves s
      { s with ring := { s.ring with dropped := (s.ring.dropped + n) % Word.size },
               rejected := s.rejected + n } := by
  induction n with
  | zero => rw [Nat.add_zero, Nat.mod_eq_of_lt word, Nat.add_zero]
  | succ n ih =>
    refine ih.trans ?_
    have next := run_pushSolo (s := { s with ring := { s.ring with dropped := (s.ring.dropped + n) % Word.size },
                                             rejected := s.rejected + n }) idle smp
    have still : capacity ≤ ({ s.ring with dropped := (s.ring.dropped + n) % Word.size }).pending := full
    rw [Shared.pushSolo, if_pos still, addWrap_mod] at next
    exact next

/-- A fresh ring after `capacity` pushes, all accepted. -/
def filled : Shared := (List.replicate capacity ⟨4096, []⟩).foldl Shared.pushSolo Shared.start

/-- The drop count is a word: after `capacity` accepted pushes and `2 ^ 64` rejected ones it
reads zero, and the accepted pushes and the drop count no longer add up to the pushes. -/
theorem dropped_count_wraps :
    ¬ ∀ s, Relation.ReflTransGen Moves Shared.start s →
      s.accepted.length + s.ring.dropped = s.pushes := by
  intro claim
  have idle : filled.producer = .idle := by
    rw [filled, producer_foldl_pushSolo]
    rfl
  have run := (run_pushes _ Shared.start rfl).trans
    (run_rejections (s := filled) idle (by decide +kernel) (by decide +kernel) ⟨4096, []⟩ Word.size)
  have counted := claim _ run
  have accepted : filled.accepted.length = 32 := by decide +kernel
  have rejected : filled.rejected = 0 := by decide +kernel
  have dropped : filled.ring.dropped = 0 := by decide +kernel
  have positive : 0 < Word.size := by decide
  simp only [Shared.pushes, accepted, rejected, dropped, Nat.zero_add, Nat.mod_self] at counted
  omega

end CausalProfiler.SampleRing
