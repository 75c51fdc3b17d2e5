import CausalProfiler.Engine.Hold
import CausalProfiler.Proofs.Tuning
import Mathlib.Data.Nat.Find
/-!
# Arrival-speedup rounds insert their share of the time slept

An arrival-speedup round holds by waking every sample period and inserting a percentage of the
time each sleep measured as global delay, until the sleeps cover the round's length. Whatever
the sleeps measure:

* `Sleeps.exists_least_cover`: some least number of sleeps covers the length, and
  `Controller.holdWakes_cover` runs exactly that many wakes when no share overflows, while
  `Controller.holdWakes_overflows` stops at the first wake whose share does;
* `Sleeps.inserted_le_div`, `Sleeps.div_lt_inserted`: rounding each wake's share down inserts
  at most the share of the whole time, and less than a nanosecond per wake below it;
* `Controller.wrapped_rise_eq_iff`: finishing the round reports the inserted delay exactly when
  the global delay did not wrap past the largest word.
-/
namespace CausalProfiler

namespace Sleeps

variable (s : Sleeps) (pct : Nat)

/-- Each sleep lasts at least a nanosecond, so `k` sleeps cover at least `k` nanoseconds. -/
theorem le_total (k : Nat) : k ≤ s.total k := by
  induction k with
  | zero => exact Nat.le_refl 0
  | succ k ih =>
    have := s.pos k
    simp only [total]
    omega

/-- Some number of sleeps covers any length, and a least one. -/
theorem exists_least_cover (length : Nat) :
    ∃ k, length ≤ s.total k ∧ ∀ j < k, s.total j < length := by
  have covered : ∃ k, length ≤ s.total k := ⟨length, s.le_total length⟩
  refine ⟨Nat.find covered, Nat.find_spec covered, fun j before => ?_⟩
  exact Nat.lt_of_not_le (Nat.find_min covered before)

/-- Rounding each wake's share down never inserts more than the share of the whole time. -/
theorem hundred_inserted_le (k : Nat) : 100 * s.inserted pct k ≤ s.total k * pct := by
  induction k with
  | zero => simp [inserted, total]
  | succ k ih =>
    simp only [inserted, total, Nat.add_mul]
    generalize s.measured k * pct = share
    omega

/-- Each wake's rounding loses less than a nanosecond. -/
theorem total_le_inserted (k : Nat) : s.total k * pct ≤ 100 * s.inserted pct k + 99 * k := by
  induction k with
  | zero => simp [inserted, total]
  | succ k ih =>
    simp only [inserted, total, Nat.add_mul]
    generalize s.measured k * pct = share
    omega

theorem inserted_le_div (k : Nat) : s.inserted pct k ≤ s.total k * pct / 100 :=
  (Nat.le_div_iff_mul_le (by decide)).mpr (by rw [Nat.mul_comm]; exact s.hundred_inserted_le pct k)

/-- The share of the whole time exceeds the shares inserted by less than one per wake. -/
theorem div_lt_inserted {k : Nat} (pos : 0 < k) :
    s.total k * pct / 100 < s.inserted pct k + k := by
  have lost := s.total_le_inserted pct k
  exact (Nat.div_lt_iff_lt_mul (by decide)).mpr (by omega)

theorem ofPeriod_total (period k : Nat) : (ofPeriod period).total k = k * max period 1 := by
  induction k with
  | zero => simp [total]
  | succ k ih =>
    rw [total, ih, Nat.succ_mul]
    rfl

end Sleeps

namespace Controller

variable {s : Sleeps} {pct length : Nat} {fits : length ≤ Word.max} {c : Controller}

/-- The controller after a wake that slept `slept` at `pct` percent. -/
def woken (c : Controller) (slept pct : Nat) : Controller :=
  { c with world := { c.world with
    profiler := c.world.profiler.insertDelay (slept * pct / 100), clock := c.world.clock + slept } }

/-- The controller after the first `m` wakes of a hold. -/
def afterWakes (s : Sleeps) (pct : Nat) (c : Controller) : Nat → Controller
  | 0 => c
  | m + 1 => (afterWakes s pct c m).woken (s.measured m) pct

theorem holdWakes_done {wake elapsed : Nat}
    (ended : ¬(elapsed < length ∧ c.world.profiler.running = true)) :
    (holdWakes s pct length fits wake elapsed).run.run c = (.ok (), c) := by
  rw [holdWakes]
  simp only [runs_bind, runs_get, dif_neg ended, runs_pure]

/-- A wake of a lasting round inserts its share and passes its sleep. -/
theorem holdWakes_wake {wake elapsed : Nat} (lasting : elapsed < length)
    (running : c.world.profiler.running = true) (product : s.measured wake * pct < Word.size) :
    (holdWakes s pct length fits wake elapsed).run.run c =
      (holdWakes s pct length fits (wake + 1) (Word.addSat elapsed (s.measured wake))).run.run
        (c.woken (s.measured wake) pct) := by
  have mul : Word.mul (s.measured wake) pct = .ok (s.measured wake * pct) :=
    Word.mul_eq_ok_iff.mpr ⟨product, rfl⟩
  rw [holdWakes]
  simp only [runs_bind, runs_get, dif_pos (And.intro lasting running), mul, runs_lift_ok, runs_set]
  rfl

/-- A wake whose share overflows the word stops the hold. -/
theorem holdWakes_overflow {wake elapsed : Nat} (lasting : elapsed < length)
    (running : c.world.profiler.running = true) (excess : Word.size ≤ s.measured wake * pct) :
    (holdWakes s pct length fits wake elapsed).run.run c = (.error .mulOverflow, c) := by
  have mul : Word.mul (s.measured wake) pct = .error .mulOverflow :=
    Word.mul_eq_error_iff.mpr ⟨excess, rfl⟩
  rw [holdWakes]
  simp only [runs_bind, runs_get, dif_pos (And.intro lasting running), mul, runs_lift_error]

theorem running_afterWakes (m : Nat) :
    (afterWakes s pct c m).world.profiler.running = c.world.profiler.running := by
  induction m with
  | zero => rfl
  | succ m ih => exact ih

/-- After the first `m` wakes of a round that lasted through them, the hold goes on from the
time their sleeps cover, saturated at the largest word. -/
theorem holdWakes_after (running : c.world.profiler.running = true) (m : Nat)
    (before : ∀ j < m, s.total j < length ∧ s.measured j * pct < Word.size) :
    (holdWakes s pct length fits 0 0).run.run c =
      (holdWakes s pct length fits m (min (s.total m) Word.max)).run.run
        (afterWakes s pct c m) := by
  induction m with
  | zero => rfl
  | succ m ih =>
    obtain ⟨lasting, product⟩ := before m (Nat.lt_succ_self m)
    have within : min (s.total m) Word.max = s.total m := Nat.min_eq_left (by omega)
    rw [ih fun j lt => before j (Nat.lt_succ_of_lt lt), within,
      holdWakes_wake lasting (by rw [running_afterWakes]; exact running) product]
    rfl

/-- A round whose shares fit ends after the least number of wakes whose sleeps cover it. -/
theorem holdWakes_cover (running : c.world.profiler.running = true) (k : Nat)
    (cover : length ≤ s.total k)
    (before : ∀ j < k, s.total j < length ∧ s.measured j * pct < Word.size) :
    (holdWakes s pct length fits 0 0).run.run c = (.ok (), afterWakes s pct c k) := by
  rw [holdWakes_after running k before, holdWakes_done]
  intro ⟨lasting, _⟩
  have : length ≤ min (s.total k) Word.max := Nat.le_min.mpr ⟨cover, fits⟩
  omega

/-- The first wake of a lasting round whose share overflows stops the hold there. -/
theorem holdWakes_overflows (running : c.world.profiler.running = true) (j : Nat)
    (lasting : s.total j < length) (excess : Word.size ≤ s.measured j * pct)
    (before : ∀ i < j, s.total i < length ∧ s.measured i * pct < Word.size) :
    (holdWakes s pct length fits 0 0).run.run c = (.error .mulOverflow, afterWakes s pct c j) := by
  rw [holdWakes_after running j before, Nat.min_eq_left (by omega),
    holdWakes_overflow lasting (by rw [running_afterWakes]; exact running) excess]

/-- After at least one wake, the global delay has risen by the shares inserted, wrapping, and
the clock by the sleeps. -/
theorem afterWakes_succ (m : Nat) : afterWakes s pct c (m + 1) =
    { c with world := { c.world with
      profiler := { c.world.profiler with
        global := (c.world.profiler.global + s.inserted pct (m + 1)) % Word.size },
      clock := c.world.clock + s.total (m + 1) } } := by
  induction m with
  | zero => simp [afterWakes, woken, Profiler.insertDelay, Word.addWrap, Sleeps.inserted,
      Sleeps.total]
  | succ m ih =>
    rw [afterWakes, ih]
    simp [woken, Profiler.insertDelay, Word.addWrap, Sleeps.inserted, Sleeps.total,
      Nat.add_assoc]

theorem afterWakes_eq (word : c.world.profiler.global < Word.size) (m : Nat) :
    afterWakes s pct c m =
      { c with world := { c.world with
        profiler := { c.world.profiler with
          global := (c.world.profiler.global + s.inserted pct m) % Word.size },
        clock := c.world.clock + s.total m } } := by
  cases m with
  | zero => simp [afterWakes, Sleeps.inserted, Sleeps.total, Nat.mod_eq_of_lt word]
  | succ m => exact afterWakes_succ m


/-- The rise of a word counter by `rise`, read back by saturating subtraction, is the rise exactly
when the counter does not wrap. -/
theorem wrapped_rise_eq_iff {g rise : Nat} (word : g < Word.size) :
    (g + rise) % Word.size - g = rise ↔ g + rise < Word.size := by
  rw [Word.size_eq] at word ⊢
  omega

/-- An arrival-speedup round held with any measured sleeps: the controller wakes exactly as many
times as the least number of sleeps that cover the length. Each wake inserts its share rounded
down, so the delay inserted is at most the share of the time slept and falls short of it by less
than a nanosecond per wake. A wake whose share overflows the word stops the hold; otherwise the
hold raises the global delay by the shares, wrapping, and moves the clock by the sleeps. Finishing
the round then reports the shares as its delays exactly when the global delay did not wrap. -/
theorem arrival_hold_inserts_rounded_shares (s : Sleeps) (r : Round) (length : Nat)
    (fits : length ≤ Word.max) (c : Controller) (active : 0 < r.arrivalSpeedup)
    (running : c.world.profiler.running = true) (word : c.world.profiler.global < Word.size) :
    ∃ k, length ≤ s.total k ∧ (∀ j < k, s.total j < length) ∧
      s.inserted r.arrivalSpeedup k ≤ s.total k * r.arrivalSpeedup / 100 ∧
      (0 < k → s.total k * r.arrivalSpeedup / 100 < s.inserted r.arrivalSpeedup k + k) ∧
      ((∃ j < k, Word.size ≤ s.measured j * r.arrivalSpeedup) →
        ∃ c', (holdRound s r length fits).run.run c = (.error .mulOverflow, c')) ∧
      ((∀ j < k, s.measured j * r.arrivalSpeedup < Word.size) →
        ∃ c', (holdRound s r length fits).run.run c = (.ok (), c') ∧
          c' = { c with world := { c.world with
            profiler := { c.world.profiler with
              global := (c.world.profiler.global + s.inserted r.arrivalSpeedup k) % Word.size },
            clock := c.world.clock + s.total k } } ∧
          (r.startDelay = c.world.profiler.global →
            ∃ o c'', (finishRound r).run.run c' = (.ok o, c'') ∧
              o.wallTime = c.world.clock + s.total k - r.startTime ∧
              (o.delays = s.inserted r.arrivalSpeedup k ↔
                c.world.profiler.global + s.inserted r.arrivalSpeedup k < Word.size) ∧
              o.duration = o.wallTime - o.delays)) := by
  have wakes : holdRound s r length fits = holdWakes s r.arrivalSpeedup length fits 0 0 :=
    if_neg (Nat.ne_of_gt active)
  obtain ⟨k, cover, least⟩ := s.exists_least_cover length
  refine ⟨k, cover, least, s.inserted_le_div _ k, s.div_lt_inserted _, fun overflows => ?_,
    fun fitting => ?_⟩
  · -- the hold stops at the first wake whose share overflows
    obtain ⟨first, lt, excess⟩ := overflows
    have some : ∃ j, j < k ∧ Word.size ≤ s.measured j * r.arrivalSpeedup :=
      ⟨first, lt, excess⟩
    obtain ⟨firstLt, firstOver⟩ := Nat.find_spec some
    refine ⟨afterWakes s r.arrivalSpeedup c (Nat.find some), ?_⟩
    rw [wakes]
    exact holdWakes_overflows running _ (least _ firstLt) firstOver fun i before =>
      ⟨least i (Nat.lt_trans before firstLt),
        Nat.lt_of_not_le fun o => Nat.find_min some before ⟨Nat.lt_trans before firstLt, o⟩⟩
  · refine ⟨_, ?_, afterWakes_eq word k, fun started => ?_⟩
    · rw [wakes]
      exact holdWakes_cover running k cover fun j lt => ⟨least j lt, fitting j lt⟩
    obtain ⟨o, c'', run, wall, delays, duration⟩ :=
      finishRound_run r (afterWakes s r.arrivalSpeedup c k)
    rw [afterWakes_eq word] at wall delays
    refine ⟨o, c'', run, wall, ?_, duration⟩
    rw [delays, started]
    exact wrapped_rise_eq_iff word

/-- A running profiler with no threads, lines or points, in an experiment on line 0 begun at
the global delay `global`. -/
def experimentAt (global : Nat) : Profiler :=
  { engine := EngineSettings.default, map := ⟨[], []⟩, samples := [], points := Registry.create 0,
    threads := ThreadTable.create 0 ⟨0, 0⟩, global := global, delaySize := 0, active := true,
    roundStart := global, selected := some 0, proposal := none, running := true,
    endToEnd := false }

/-- The controller at time 0 over `experimentAt global`, with arrival speedup on. -/
def holdingAt (global : Nat) : Controller :=
  ⟨⟨Xoshiro.seed 0, 0, none, none, false, true, 0⟩, ⟨experimentAt global, Log.empty false, 0⟩⟩

/-- A baseline round on line 0 begun at time 0 from the global delay `global`, speeding
arrivals up by `pct` percent. -/
def arrivalRound (global pct : Nat) : Round := ⟨0, 0, 0, global, 0, pct, ⟨[], []⟩⟩

/-- Sleeps of 1000 ns cover a round of 2500 ns in three wakes, each inserting 500 ns at half
speed. -/
theorem half_speed_hold_inserts_half :
    0 < (arrivalRound 0 50).arrivalSpeedup ∧ (holdingAt 0).world.profiler.running = true ∧
      (holdingAt 0).world.profiler.global < Word.size ∧
      ∃ c', (holdRound (Sleeps.ofPeriod 1000) (arrivalRound 0 50) 2500 (by decide)).run.run
          (holdingAt 0) = (.ok (), c') ∧
        c'.world.profiler.global = 1500 ∧ c'.world.clock = 3000 := by
  obtain ⟨k, cover, least, -, -, -, fitting⟩ :=
    arrival_hold_inserts_rounded_shares (Sleeps.ofPeriod 1000) (arrivalRound 0 50) 2500
      (by decide) (holdingAt 0) (by decide) rfl (by decide)
  have period : max 1000 1 = 1000 := rfl
  simp only [Sleeps.ofPeriod_total, period] at cover least
  have three : k = 3 := by
    have : ¬ 3 < k := fun more => by have := least 3 more; omega
    omega
  subst three
  obtain ⟨c', run, rfl, -⟩ :=
    fitting fun _ _ => (by decide : max 1000 1 * 50 < Word.size)
  exact ⟨by decide, rfl, by decide, _, run, by decide, by decide⟩

/-- At the top of the word, a round that speeds arrivals up by the whole of its one sample
period wraps the global delay, and finishing it reports no delay inserted although the hold
inserted a whole period. -/
theorem wrapped_hold_reports_no_delay :
    ∃ c' o c'', (holdRound (Sleeps.ofPeriod 1000000) (arrivalRound Word.max 100) 1
        (by decide)).run.run (holdingAt Word.max) = (.ok (), c') ∧
      (finishRound (arrivalRound Word.max 100)).run.run c' = (.ok o, c'') ∧
      (Sleeps.ofPeriod 1000000).inserted 100 1 = 1000000 ∧ o.delays = 0 := by
  -- one sleep of a whole period covers the round, and its share fits the word
  have held : (holdRound (Sleeps.ofPeriod 1000000) (arrivalRound Word.max 100) 1
      (by decide)).run.run (holdingAt Word.max) =
        (.ok (), afterWakes (Sleeps.ofPeriod 1000000) 100 (holdingAt Word.max) 1) := by
    rw [holdRound, if_neg (by decide)]
    refine holdWakes_cover rfl 1 (by decide) fun j lt => ?_
    obtain rfl := Nat.lt_one_iff.mp lt
    exact ⟨by decide, by decide⟩
  exact ⟨_, _, _, held, rfl, rfl, rfl⟩

end Controller

end CausalProfiler
