import CausalProfiler.Proofs.Control
import Mathlib.Tactic.SplitIfs
/-!
# Tuning the experiments

Between rounds the controller tunes the next experiment: it adapts the experiment's length to
the smallest progress-point delta of the round just finished, and draws the delay size (and the
arrival speedup) from its generator. Both are checked word arithmetic, so both can fault.

The length (`adaptLength`) doubles, clipped to the longest experiment, when the points moved
less than the target, and halves when they moved more than twice the target and the length is
at least twice the shortest experiment. One adaptation is the function
`EngineSettings.nextLength` of the settings and the length (`Controller.adaptLength_run`):

* `EngineSettings.nextLength_within`: it keeps the length between the shortest and the longest
  experiment;
* `EngineSettings.nextLength_eq_error_iff`: it faults exactly when one of its doublings leaves
  the word: the length's, the target's, or the shortest length's;
* `Controller.adaptations_within`, `Controller.adaptations_ok`: over every sequence of deltas
  the length stays within the bounds, and no adaptation faults while twice the longest length
  and twice the target fit the word; `adapted_length_stays_within` starts them from the engine
  a profiler creates.

A draw (`draw`) sums the zero weight and the divisions, draws an outcome from `0..=` that sum,
and gives no delay for the outcomes up to the weight and the outcome's share of the scale for
the others (`Controller.draw_run`, `EngineSettings.drawOf`):

* `Xoshiro.upTo_le`: the generator's outcome lies in its range;
* `shares_of_outcomes`, `count_shares`: over the outcomes in order the shares are `weight + 1`
  zeros and then each division once;
* `EngineSettings.drawOf_eq`, `EngineSettings.drawOf_eq_error_iff`: an outcome draws its share
  of the scale, and faults exactly when that product leaves the word;
* `drawn_delays_follow_shares`: the delay and the arrival speedup are such draws, and a fixed
  speedup is the same delay every time.
-/
namespace CausalProfiler

theorem Word.mul_eq_ok_iff {a b v : Nat} :
    Word.mul a b = .ok v ↔ a * b < Word.size ∧ a * b = v := by
  unfold Word.mul
  split
  · simp_all
  · simp only [reduceCtorEq, false_iff, not_and]
    omega

theorem Word.mul_eq_error_iff {a b : Nat} {f : Fault} :
    Word.mul a b = .error f ↔ Word.size ≤ a * b ∧ f = .mulOverflow := by
  unfold Word.mul
  split
  · simp only [reduceCtorEq, false_iff, not_and]
    omega
  · simp only [Except.error.injEq]
    constructor
    · intro same
      exact ⟨by omega, same.symm⟩
    · intro ⟨_, same⟩
      exact same.symm

/-- A profiler keeps the engine settings it was created with. -/
@[simp] theorem Profiler.create_engine (s : Settings) (map : SourceMap) :
    (Profiler.create s map).engine = s.engine := rfl

/-- A created engine starts at the shortest length and keeps the delay the settings fix. -/
theorem Engine.create_eq_ok {s : Settings} {p : Profiler} {seed : Nat} {e : Engine}
    (created : Engine.create s p seed = .ok e) :
    e.length = p.engine.experimentMinTime ∧ s.fixedDelay = .ok e.fixedDelay := by
  simp only [Engine.create, bind, Except.bind] at created
  cases fixed : s.fixedDelay with
  | error f => simp [fixed] at created
  | ok v =>
    simp only [fixed, pure, Except.pure, Except.ok.injEq] at created
    subst created
    exact ⟨rfl, rfl⟩

/-- The delay of a fixed speedup is that percent of the sample period. -/
theorem Settings.fixedDelay_eq_ok {s : Settings} {v : Option Nat} (fixed : s.fixedDelay = .ok v) :
    v = s.fixedSpeedup.map (s.engine.samplePeriod * · / 100) := by
  unfold Settings.fixedDelay at fixed
  cases speedup : s.fixedSpeedup with
  | none =>
    simp only [speedup, Except.ok.injEq] at fixed
    simp [← fixed]
  | some pct =>
    simp only [speedup, bind, Except.bind] at fixed
    cases scaled : Word.mul s.engine.samplePeriod pct with
    | error f => simp [scaled] at fixed
    | ok m =>
      obtain ⟨-, rfl⟩ := Word.mul_eq_ok_iff.mp scaled
      simp only [scaled, pure, Except.pure, Except.ok.injEq] at fixed
      simp [← fixed]

namespace EngineSettings

/-- A length between the shortest and the longest experiment. -/
structure Within (e : EngineSettings) (length : Nat) : Prop where
  least : e.experimentMinTime ≤ length
  most : length ≤ e.experimentMaxTime

instance (e : EngineSettings) (length : Nat) : Decidable (e.Within length) :=
  decidable_of_iff (e.experimentMinTime ≤ length ∧ length ≤ e.experimentMaxTime)
    ⟨fun ⟨least, most⟩ => ⟨least, most⟩, fun ⟨least, most⟩ => ⟨least, most⟩⟩

variable {e : EngineSettings} {length l : Nat} {d : Option Nat}

/-- An adaptation keeps the length within the bounds: a doubling is clipped to the longest
length, and a halving needs twice the shortest length. -/
theorem nextLength_within (within : e.Within length) (next : e.nextLength length d = .ok l) :
    e.Within l := by
  obtain ⟨least, most⟩ := within
  cases d with
  | none =>
    cases next
    exact ⟨least, most⟩
  | some delta =>
    simp only [nextLength] at next
    split_ifs at next with short
    · cases doubled : Word.mul length 2 with
      | error f => simp [doubled, bind, Except.bind] at next
      | ok doubled' =>
        obtain ⟨-, rfl⟩ := Word.mul_eq_ok_iff.mp doubled
        simp only [doubled, bind, Except.bind, pure, Except.pure, Except.ok.injEq] at next
        subst next
        exact ⟨by omega, by omega⟩
    · cases twice : Word.mul e.targetDelta 2 with
      | error f => simp [twice, bind, Except.bind] at next
      | ok twice' =>
        simp only [twice, bind, Except.bind] at next
        split_ifs at next with plenty
        · cases leastTwice : Word.mul e.experimentMinTime 2 with
          | error f => simp [leastTwice] at next
          | ok least' =>
            obtain ⟨-, rfl⟩ := Word.mul_eq_ok_iff.mp leastTwice
            simp only [leastTwice, pure, Except.pure, Except.ok.injEq] at next
            subst next
            split_ifs with halves
            · exact ⟨by omega, by omega⟩
            · exact ⟨least, most⟩
        · cases next
          exact ⟨least, most⟩

/-- An adaptation faults exactly when one of its doublings leaves the word: the length's when
the points moved too little, else the target's, or the shortest length's when they moved more
than twice the target. -/
theorem nextLength_eq_error_iff {f : Fault} :
    e.nextLength length d = .error f ↔ f = .mulOverflow ∧ ∃ delta, d = some delta ∧
      (delta < e.targetDelta ∧ Word.size ≤ length * 2 ∨
        e.targetDelta ≤ delta ∧ (Word.size ≤ e.targetDelta * 2 ∨
          e.targetDelta * 2 < delta ∧ Word.size ≤ e.experimentMinTime * 2)) := by
  cases d with
  | none => simp [nextLength]
  | some delta =>
    simp only [nextLength, Option.some.injEq, exists_eq_left']
    by_cases short : delta < e.targetDelta
    · simp only [short, if_true, true_and, Nat.not_le.mpr short, false_and, or_false]
      cases doubled : Word.mul length 2 with
      | error g =>
        obtain ⟨outside, rfl⟩ := Word.mul_eq_error_iff.mp doubled
        simp [bind, Except.bind, outside, eq_comm]
      | ok doubled' =>
        obtain ⟨fits, -⟩ := Word.mul_eq_ok_iff.mp doubled
        simp only [bind, Except.bind, pure, Except.pure, reduceCtorEq, false_iff, not_and]
        omega
    · simp only [short, if_false, false_and, false_or, Nat.le_of_not_lt short, true_and]
      cases twice : Word.mul e.targetDelta 2 with
      | error g =>
        obtain ⟨outside, rfl⟩ := Word.mul_eq_error_iff.mp twice
        simp [bind, Except.bind, outside, eq_comm]
      | ok twice' =>
        obtain ⟨fits, rfl⟩ := Word.mul_eq_ok_iff.mp twice
        simp only [bind, Except.bind, Nat.not_le.mpr fits, false_or]
        by_cases plenty : e.targetDelta * 2 < delta
        · cases leastTwice : Word.mul e.experimentMinTime 2 with
          | error g =>
            obtain ⟨outside, rfl⟩ := Word.mul_eq_error_iff.mp leastTwice
            simp [plenty, outside, eq_comm]
          | ok least' =>
            obtain ⟨leastFits, -⟩ := Word.mul_eq_ok_iff.mp leastTwice
            simp only [plenty, if_true, pure, Except.pure, reduceCtorEq, false_iff, not_and,
              true_and]
            omega
        · simp [plenty, pure, Except.pure]

/-- While twice the longest length and twice the target fit the word, no adaptation of a length
within the bounds faults. -/
theorem nextLength_ok (within : e.Within length) (doubling : e.experimentMaxTime * 2 ≤ Word.max)
    (target : e.targetDelta * 2 ≤ Word.max) (d : Option Nat) :
    ∃ l, e.nextLength length d = .ok l := by
  have word := Word.size_eq_max_add_one
  cases next : e.nextLength length d with
  | ok l => exact ⟨l, rfl⟩
  | error f =>
    obtain ⟨-, delta, -, overflows⟩ := nextLength_eq_error_iff.mp next
    have := within.least
    have := within.most
    omega

end EngineSettings

namespace Controller

variable (ds : List (Option Nat)) {c : Controller}

/-- Adaptations keep the world, and keep the length within the bounds whatever deltas the rounds
see; a fault stops them at the length the last adaptation left. -/
theorem adaptations_within (within : c.world.profiler.engine.Within c.engine.length) :
    ((ds.forM adaptLength).run.run c).2.world = c.world ∧
      c.world.profiler.engine.Within ((ds.forM adaptLength).run.run c).2.engine.length := by
  -- induction on the deltas; the bounds are the invariant, and the settings live in the world
  induction ds generalizing c with
  | nil => exact ⟨rfl, within⟩
  | cons d rest ih =>
    simp only [List.forM, runs_bind, adaptLength_run]
    cases next : c.world.profiler.engine.nextLength c.engine.length d with
    | error f => exact ⟨rfl, within⟩
    | ok l => exact ih (EngineSettings.nextLength_within within next)

/-- While twice the longest length and twice the target fit the word, no sequence of
adaptations from a length within the bounds faults. -/
theorem adaptations_ok (within : c.world.profiler.engine.Within c.engine.length)
    (doubling : c.world.profiler.engine.experimentMaxTime * 2 ≤ Word.max)
    (target : c.world.profiler.engine.targetDelta * 2 ≤ Word.max) :
    ((ds.forM adaptLength).run.run c).1 = .ok () := by
  induction ds generalizing c with
  | nil => rfl
  | cons d rest ih =>
    obtain ⟨l, next⟩ := EngineSettings.nextLength_ok within doubling target d
    simp only [List.forM, runs_bind, adaptLength_run, next]
    exact ih (EngineSettings.nextLength_within within next) doubling target

end Controller

open Controller in
/-- From the engine a profiler creates, whose experiments start at the shortest length, every
sequence of adaptations keeps the length between the shortest and the longest experiment, and
none faults while twice the longest length and twice the target fit the word. -/
theorem adapted_length_stays_within (s : Settings) (map : SourceMap) (seed : Nat) (log : Log)
    (clock : Nat) (e : Engine) (created : Engine.create s (Profiler.create s map) seed = .ok e)
    (ordered : s.engine.experimentMinTime ≤ s.engine.experimentMaxTime) (ds : List (Option Nat)) :
    s.engine.Within
        ((ds.forM adaptLength).run.run ⟨e, ⟨Profiler.create s map, log, clock⟩⟩).2.engine.length ∧
      (s.engine.experimentMaxTime * 2 ≤ Word.max → s.engine.targetDelta * 2 ≤ Word.max →
        ((ds.forM adaptLength).run.run ⟨e, ⟨Profiler.create s map, log, clock⟩⟩).1 = .ok ()) := by
  have start : e.length = s.engine.experimentMinTime := (Engine.create_eq_ok created).1
  have within : s.engine.Within e.length := ⟨Nat.le_of_eq start.symm, start ▸ ordered⟩
  exact ⟨(adaptations_within ds (c := ⟨e, ⟨Profiler.create s map, log, clock⟩⟩) within).2,
    adaptations_ok ds (c := ⟨e, ⟨Profiler.create s map, log, clock⟩⟩) within⟩

theorem default_adaptations_stay_within :
    ∃ e, Engine.create Settings.default (Profiler.create Settings.default ⟨[], []⟩) 7 = .ok e ∧
      Settings.default.engine.Within
        (([some 1, some 0, some 11, none].forM Controller.adaptLength).run.run
          ⟨e, ⟨Profiler.create Settings.default ⟨[], []⟩, Log.empty false, 0⟩⟩).2.engine.length ∧
      (([some 1, some 0, some 11, none].forM Controller.adaptLength).run.run
          ⟨e, ⟨Profiler.create Settings.default ⟨[], []⟩, Log.empty false, 0⟩⟩).1 = .ok () := by
  obtain ⟨e, created⟩ : ∃ e, Engine.create Settings.default
      (Profiler.create Settings.default ⟨[], []⟩) 7 = .ok e := ⟨_, rfl⟩
  have stays := adapted_length_stays_within Settings.default ⟨[], []⟩ 7 (Log.empty false) 0 e
    created (by decide) [some 1, some 0, some 11, none]
  exact ⟨e, created, stays.1, stays.2 (by decide) (by decide)⟩

/-- Settings whose shortest and longest experiments are both half the word. -/
def halfWordLengths : Settings :=
  { Settings.default with engine := { EngineSettings.default with
      experimentMinTime := Nat.pow 2 63, experimentMaxTime := Nat.pow 2 63 } }

/-- Without the bound on the longest length the doubling overflows: from the engine that
settings with both lengths at half the word create, a round whose points did not move doubles
the length past the word. -/
theorem half_word_length_overflows :
    ∃ e, Engine.create halfWordLengths (Profiler.create halfWordLengths ⟨[], []⟩) 7 = .ok e ∧
      halfWordLengths.engine.Within e.length ∧
      (Controller.adaptLength (some 0)).run.run
          ⟨e, ⟨Profiler.create halfWordLengths ⟨[], []⟩, Log.empty false, 0⟩⟩ =
        (.error .mulOverflow,
          ⟨e, ⟨Profiler.create halfWordLengths ⟨[], []⟩, Log.empty false, 0⟩⟩) := by
  refine ⟨_, rfl, ⟨Nat.le_refl _, Nat.le_refl _⟩, ?_⟩
  have overflows : halfWordLengths.engine.nextLength halfWordLengths.engine.experimentMinTime
      (some 0) = .error .mulOverflow := rfl
  simp only [Controller.adaptLength_run, Profiler.create_engine]
  rw [overflows]

/-! ## The delay draw -/

namespace Xoshiro

/-- A random word's share of a range, the high word of their product, lies below the range. -/
theorem share_lt (v : UInt64) {range : Nat} (positive : 0 < range) (inWord : range ≤ Word.size) :
    ((v.toNat * range / Nat.pow 2 64).toUInt64).toNat < range := by
  have below : v.toNat * range / Nat.pow 2 64 < range :=
    Nat.div_lt_of_lt_mul (Nat.mul_lt_mul_of_pos_right (UInt64.toNat_lt v) positive)
  have word : Word.size = 2 ^ 64 := rfl
  rw [Nat.toUInt64_eq, UInt64.toNat_ofNat', Nat.mod_eq_of_lt (by omega)]
  exact below

/-- Every attempt of the rejection sampling, the last included, draws below the range. -/
theorem reject_lt (range zone : Nat) (positive : 0 < range) (inWord : range ≤ Word.size) :
    ∀ fuel g, (reject range zone fuel g).1.toNat < range
  | 0, g => share_lt _ positive inWord
  | fuel + 1, g => by
    simp only [reject]
    split
    · exact share_lt _ positive inWord
    · exact reject_lt range zone positive inWord fuel _

/-- A draw from `0..=high` is at most `high`; over the whole word it is any word. -/
theorem upTo_le (high : UInt64) (g : Xoshiro) : (g.upTo high).1.toNat ≤ high.toNat := by
  have top := UInt64.toNat_lt high
  have word : Word.size = 2 ^ 64 := rfl
  have sum : (high + 1).toNat = (high.toNat + 1) % 2 ^ 64 := by
    rw [UInt64.toNat_add, UInt64.toNat_one]
  simp only [upTo]
  split
  · -- the range wraps to zero only when `high` is the top word
    rename_i wraps
    have zero : (high + 1).toNat = 0 := by rw [wraps]; rfl
    have := UInt64.toNat_lt g.next.1
    omega
  · rename_i range
    have positive : (high + 1).toNat ≠ 0 := fun zero => range (UInt64.toNat_inj.mp zero)
    have inWord : (high + 1).toNat ≤ Word.size := by omega
    have succ : (high + 1).toNat = high.toNat + 1 := by omega
    exact Nat.le_of_lt_succ
      (Nat.lt_of_lt_of_eq (reject_lt _ _ (Nat.pos_of_ne_zero positive) inWord 256 g) succ)

end Xoshiro

/-- The share of the scale an outcome of the generator draws: none for the outcomes up to the
weight, one division more for each outcome after it. -/
def shareOf (weight r : Nat) : Nat := if r ≤ weight then 0 else r - weight

theorem shareOf_le {weight divisions r : Nat} (within : r ≤ weight + divisions) :
    shareOf weight r ≤ divisions := by
  unfold shareOf
  split <;> omega

/-- Over the outcomes `0, 1, …, weight + divisions` in order, the shares are `weight + 1` zeros
and then each division once. -/
theorem shares_of_outcomes (weight divisions : Nat) :
    (List.range (weight + divisions + 1)).map (shareOf weight) =
      List.replicate (weight + 1) 0 ++ List.range' 1 divisions := by
  induction divisions with
  | zero =>
    have zeros : ∀ r ∈ List.range (weight + 1), shareOf weight r = (fun _ => 0) r := by
      intro r mem
      simp only [List.mem_range] at mem
      simp only [shareOf, if_pos (Nat.le_of_lt_succ mem)]
    rw [Nat.add_zero, List.map_congr_left zeros, List.map_const', List.length_range,
      List.range'_zero, List.append_nil]
  | succ k ih =>
    rw [show weight + (k + 1) + 1 = weight + k + 1 + 1 by omega, List.range_succ, List.map_append,
      ih, List.range'_concat, List.append_assoc]
    simp only [List.map_cons, List.map_nil, shareOf]
    rw [if_neg (by omega), show weight + k + 1 - weight = 1 + 1 * k by omega]

/-- How many outcomes draw each share: `weight + 1` draw none, one draws each division. -/
theorem count_shares (weight divisions k : Nat) :
    ((List.range (weight + divisions + 1)).map (shareOf weight)).count k =
      if k = 0 then weight + 1 else if k ≤ divisions then 1 else 0 := by
  rw [shares_of_outcomes, List.count_append, List.count_replicate,
    (List.nodup_range' (s := 1) (n := divisions)).count]
  simp only [List.mem_range', beq_iff_eq]
  by_cases zero : k = 0
  · subst zero
    have none : ¬∃ i, i < divisions ∧ 0 = 1 + 1 * i := fun ⟨i, _, eq⟩ => by omega
    rw [if_neg none]
    simp
  · have : ¬(0 = k) := fun eq => zero eq.symm
    simp only [this, if_false, zero, Nat.zero_add]
    by_cases division : k ≤ divisions
    · simp only [division, if_true]
      rw [if_pos ⟨k - 1, by omega, by omega⟩]
    · simp only [division, if_false]
      rw [if_neg (fun ⟨i, lt, eq⟩ => division (by omega))]

namespace EngineSettings

variable {e : EngineSettings} {scale r : Nat}

/-- An outcome in range draws its share of the scale while the divisions times the scale fit
the word. -/
theorem drawOf_eq (within : r ≤ e.zeroSpeedupWeight + max e.speedupDivisions 1)
    (fits : max e.speedupDivisions 1 * scale ≤ Word.max) :
    e.drawOf scale r = .ok (shareOf e.zeroSpeedupWeight r * scale / max e.speedupDivisions 1) := by
  have word := Word.size_eq_max_add_one
  unfold drawOf shareOf
  split
  · simp
  · -- the outcome's share is at most the divisions, so its product fits too
    have share : (r - e.zeroSpeedupWeight) * scale ≤ max e.speedupDivisions 1 * scale :=
      Nat.mul_le_mul_right _ (by omega)
    rw [Word.mul, if_pos (by omega)]
    rfl

/-- A draw faults exactly when its outcome is past the weight and the outcome's share times the
scale leaves the word. -/
theorem drawOf_eq_error_iff {f : Fault} :
    e.drawOf scale r = .error f ↔
      f = .mulOverflow ∧ e.zeroSpeedupWeight < r ∧
        Word.size ≤ (r - e.zeroSpeedupWeight) * scale := by
  unfold drawOf
  split
  · simp only [reduceCtorEq, false_iff, not_and]
    omega
  · cases product : Word.mul (r - e.zeroSpeedupWeight) scale with
    | error g =>
      obtain ⟨outside, rfl⟩ := Word.mul_eq_error_iff.mp product
      simp only [Except.map, Except.error.injEq]
      constructor
      · intro same
        exact ⟨same.symm, by omega, outside⟩
      · intro ⟨same, _⟩
        exact same.symm
    | ok v =>
      obtain ⟨fits, -⟩ := Word.mul_eq_ok_iff.mp product
      simp only [Except.map, reduceCtorEq, false_iff, not_and]
      omega

/-- A share of the divisions is a share of the scale, never more than the whole. -/
theorem share_div_le {k divisions : Nat} (within : k ≤ divisions) (scale : Nat) :
    k * scale / divisions ≤ scale := by
  rcases Nat.eq_zero_or_pos divisions with zero | positive
  · simp [zero]
  · exact Nat.div_le_of_le_mul (Nat.mul_le_mul_right _ within)

end EngineSettings

namespace Controller

variable {c : Controller}

/-- While the weight and the divisions sum within the word, a draw gives what `drawOf` gives for
an outcome of the generator up to that sum, and changes the generator only. -/
theorem draw_outcome (scale : Nat) {e : EngineSettings} (settings : c.world.profiler.engine = e)
    (fits : e.zeroSpeedupWeight + max e.speedupDivisions 1 ≤ Word.max) :
    ∃ r rng, r ≤ e.zeroSpeedupWeight + max e.speedupDivisions 1 ∧
      (draw scale).run.run c =
        (e.drawOf scale r, { c with engine := { c.engine with rng := rng } }) := by
  have word := Word.size_eq_max_add_one
  have fitsWord : e.zeroSpeedupWeight + max e.speedupDivisions 1 < Word.size := by
    rw [word]
    exact Nat.lt_succ_of_le fits
  have sum : Word.add e.zeroSpeedupWeight (max e.speedupDivisions 1) =
      .ok (e.zeroSpeedupWeight + max e.speedupDivisions 1) := by
    rw [Word.add, if_pos fitsWord]
  -- the sum read back from the word it is passed in is the generator's range
  have top : (e.zeroSpeedupWeight + max e.speedupDivisions 1).toUInt64.toNat =
      e.zeroSpeedupWeight + max e.speedupDivisions 1 := by
    rw [Nat.toUInt64_eq, UInt64.toNat_ofNat', Nat.mod_eq_of_lt (show _ < 2 ^ 64 from fitsWord)]
  have drawn :=
    Xoshiro.upTo_le (e.zeroSpeedupWeight + max e.speedupDivisions 1).toUInt64 c.engine.rng
  rw [top] at drawn
  rw [draw_run, settings, sum]
  exact ⟨_, _, drawn, rfl⟩

/-- With a fixed delay every choice is that delay, and nothing changes. -/
theorem chooseDelay_fixed {v : Nat} (fixed : c.engine.fixedDelay = some v) :
    chooseDelay.run.run c = (.ok v, c) := by
  simp only [chooseDelay, runs_bind, runs_get, fixed, runs_pure]

/-- Without a fixed delay the delay is drawn over the sample period. -/
theorem chooseDelay_drawn (unfixed : c.engine.fixedDelay = none) :
    chooseDelay.run.run c = (draw c.world.profiler.engine.samplePeriod).run.run c := by
  simp only [chooseDelay, runs_bind, runs_get, unfixed]

/-- With arrival speedup the percent is drawn over a hundred. -/
theorem chooseArrival_drawn (on : c.engine.arrival = true) :
    chooseArrival.run.run c = (draw 100).run.run c := by
  simp only [chooseArrival, runs_bind, runs_get, on, if_true]

end Controller

open Controller in
/-- Delays and arrival speedups are drawn as evenly spaced shares. Of the outcomes
`0, 1, …, weight + divisions` of the generator (the divisions at least one), `weight + 1` draw
no share and each share `k` of `1, …, divisions` is drawn by one outcome, as
`k * scale / divisions`, never more than the scale, and without fault while the divisions times
the scale fit the word. While the weight and the divisions sum within the word, a drawn delay
(over the sample period) and a drawn arrival speedup (over a hundred) are the draws of an
outcome in range; with a fixed speedup every delay is that percent of the sample period. -/
theorem drawn_delays_follow_shares (e : EngineSettings) :
    (∀ k, ((List.range (e.zeroSpeedupWeight + max e.speedupDivisions 1 + 1)).map
        (shareOf e.zeroSpeedupWeight)).count k =
      if k = 0 then e.zeroSpeedupWeight + 1 else if k ≤ max e.speedupDivisions 1 then 1 else 0) ∧
    (∀ scale r, r ≤ e.zeroSpeedupWeight + max e.speedupDivisions 1 →
      max e.speedupDivisions 1 * scale ≤ Word.max →
      e.drawOf scale r = .ok (shareOf e.zeroSpeedupWeight r * scale / max e.speedupDivisions 1) ∧
        shareOf e.zeroSpeedupWeight r ≤ max e.speedupDivisions 1 ∧
        shareOf e.zeroSpeedupWeight r * scale / max e.speedupDivisions 1 ≤ scale) ∧
    (∀ c : Controller, c.world.profiler.engine = e →
      e.zeroSpeedupWeight + max e.speedupDivisions 1 ≤ Word.max →
      (c.engine.fixedDelay = none →
        ∃ r rng, r ≤ e.zeroSpeedupWeight + max e.speedupDivisions 1 ∧
          chooseDelay.run.run c =
            (e.drawOf e.samplePeriod r, { c with engine := { c.engine with rng := rng } })) ∧
      (c.engine.arrival = true →
        ∃ r rng, r ≤ e.zeroSpeedupWeight + max e.speedupDivisions 1 ∧
          chooseArrival.run.run c =
            (e.drawOf 100 r, { c with engine := { c.engine with rng := rng } }))) ∧
    (∀ (s : Settings) (p : Profiler) (seed : Nat) (created : Engine) (pct : Nat), s.engine = e →
      Engine.create s p seed = .ok created → s.fixedSpeedup = some pct →
      ∀ c : Controller, c.engine.fixedDelay = created.fixedDelay →
        chooseDelay.run.run c = (.ok (e.samplePeriod * pct / 100), c)) := by
  refine ⟨count_shares _ _, ?_, ?_, ?_⟩
  · intro scale r within fits
    exact ⟨EngineSettings.drawOf_eq within fits, shareOf_le within,
      EngineSettings.share_div_le (shareOf_le within) scale⟩
  · intro c settings fits
    constructor
    · intro unfixed
      rw [chooseDelay_drawn unfixed, settings]
      exact draw_outcome _ settings fits
    · intro on
      rw [chooseArrival_drawn on]
      exact draw_outcome 100 settings fits
  · intro s p seed created pct settings creates speedup c same
    have fixed : c.engine.fixedDelay = some (e.samplePeriod * pct / 100) := by
      rw [same, Settings.fixedDelay_eq_ok (Engine.create_eq_ok creates).2, speedup, settings]
      rfl
    exact chooseDelay_fixed fixed

/-- Settings that draw arrival speedups too. -/
def arrivalDraws : Settings := { Settings.default with arrivalSpeedup := true }

/-- Settings that fix the speedup at forty percent. -/
def fortyPercent : Settings := { Settings.default with fixedSpeedup := some 40 }

theorem default_draws_follow_shares :
    ((List.range 28).map (shareOf 7)).count 0 = 8 ∧
      EngineSettings.default.drawOf 1000000 27 = .ok 1000000 ∧
      (∃ e, Engine.create arrivalDraws (Profiler.create arrivalDraws ⟨[], []⟩) 7 = .ok e ∧
        (∃ r rng, r ≤ 27 ∧ Controller.chooseDelay.run.run
            ⟨e, ⟨Profiler.create arrivalDraws ⟨[], []⟩, Log.empty false, 0⟩⟩ =
          (EngineSettings.default.drawOf 1000000 r,
            ⟨{ e with rng := rng }, ⟨Profiler.create arrivalDraws ⟨[], []⟩, Log.empty false, 0⟩⟩)) ∧
        ∃ r rng, r ≤ 27 ∧ Controller.chooseArrival.run.run
            ⟨e, ⟨Profiler.create arrivalDraws ⟨[], []⟩, Log.empty false, 0⟩⟩ =
          (EngineSettings.default.drawOf 100 r,
            ⟨{ e with rng := rng }, ⟨Profiler.create arrivalDraws ⟨[], []⟩, Log.empty false, 0⟩⟩)) ∧
      (∃ e, Engine.create fortyPercent (Profiler.create fortyPercent ⟨[], []⟩) 7 = .ok e ∧
        Controller.chooseDelay.run.run
            ⟨e, ⟨Profiler.create fortyPercent ⟨[], []⟩, Log.empty false, 0⟩⟩ =
          (.ok 400000, ⟨e, ⟨Profiler.create fortyPercent ⟨[], []⟩, Log.empty false, 0⟩⟩)) := by
  have shares := drawn_delays_follow_shares EngineSettings.default
  obtain ⟨drawn, -⟩ := shares.2.1 1000000 27 (by decide) (by decide)
  refine ⟨shares.1 0, drawn, ⟨_, rfl, ?_⟩, ⟨_, rfl, ?_⟩⟩
  · obtain ⟨delay, arrival⟩ := shares.2.2.1
      ⟨_, ⟨Profiler.create arrivalDraws ⟨[], []⟩, Log.empty false, 0⟩⟩ rfl (by decide)
    exact ⟨delay rfl, arrival rfl⟩
  · exact shares.2.2.2 fortyPercent _ 7 _ 40 rfl rfl rfl _ rfl

/-- Settings that put no weight on a zero delay and divide the sample period once. -/
def oneDivision : Settings :=
  { Settings.default with engine := { EngineSettings.default with
      speedupDivisions := 1, zeroSpeedupWeight := 0 } }

/-- One more outcome draws no delay than the weight counts: with no weight on zero and one
division, the engine seeded with 11 draws the whole sample period and then no delay. -/
theorem one_division_draws_zero :
    ∃ e, Engine.create oneDivision (Profiler.create oneDivision ⟨[], []⟩) 11 = .ok e ∧
      ((do
          let first ← Controller.chooseDelay
          let second ← Controller.chooseDelay
          pure [first, second] : ControlM (List Nat)).run.run
        ⟨e, ⟨Profiler.create oneDivision ⟨[], []⟩, Log.empty false, 0⟩⟩).1 = .ok [1000000, 0] := by
  refine ⟨_, rfl, ?_⟩
  -- the generator seeded with 11 draws outcome 1 of `0..=1`, then outcome 0
  have sum : Word.add oneDivision.engine.zeroSpeedupWeight
      (max oneDivision.engine.speedupDivisions 1) = .ok 1 := rfl
  have first : ((Xoshiro.seed (Nat.toUInt64 11)).upTo (Nat.toUInt64 1)).1.toNat = 1 := by
    decide +kernel
  have second : (((Xoshiro.seed (Nat.toUInt64 11)).upTo (Nat.toUInt64 1)).2.upTo
      (Nat.toUInt64 1)).1.toNat = 0 := by
    decide +kernel
  have whole : oneDivision.engine.drawOf oneDivision.engine.samplePeriod 1 = .ok 1000000 := rfl
  have none : oneDivision.engine.drawOf oneDivision.engine.samplePeriod 0 = .ok 0 := rfl
  simp only [Controller.runs_bind, Controller.chooseDelay_drawn, Controller.draw_run,
    Profiler.create_engine, sum, first, second, whole, none, Controller.runs_pure]

end CausalProfiler
