import CausalProfiler.Proofs.WildcardLanguage
import Mathlib.Logic.Relation
/-!
# The wildcard scan terminates in bounds

The scan backtracks on a mismatch: it moves the text position back to just after the one
saved with the last wildcard, so neither position alone moves forward in every round. What
does is the triple of the text left after the saved position, the text left after the current
one and the pattern left, compared lexicographically (`Scan.lexMeasure`): a wildcard saves the
current position or stays on it and steps over a pattern byte, a literal step keeps the saved
position and steps over a text byte, and a retry moves the saved position one byte on.

* `Scan.step_eq_next`: what a round that does not return can do;
* `Scan.lexMeasure_lt`: each such round from a valid position lowers the measure;
* `Scan.valid_of_reaches`: every position the scan reaches from the start is valid, so its
  pattern and text positions stay within the two;
* `Scan.returns`: from a valid position the scan returns, and the matcher's fuel reaches the
  return;
* `scan_terminates_in_bounds`: from the start, every round lowers the measure, every position
  is in bounds, and the scan returns the matcher's answer.
-/
namespace CausalProfiler.Pattern

/-- One round of the scan that does not return. -/
def Scan.Steps (P T : List UInt8) (s s' : Scan) : Prop := s.step P T = .next s'

/-- The text position saved with the last wildcard, zero before any. -/
def Scan.savedText (s : Scan) : Nat := (s.back.map (·.2)).getD 0

@[simp] theorem Scan.savedText_mark (p t wp wt : Nat) :
    Scan.savedText ⟨p, t, some (wp, wt)⟩ = wt := rfl

/-- The scan's measure: the text left after the saved position, the text left after the
current position, and the pattern left. -/
def Scan.lexMeasure (P T : List UInt8) (s : Scan) : Nat × Nat × Nat :=
  (T.length - s.savedText, T.length - s.t, P.length - s.p)

/-- The lexicographic order of the measure. -/
def LexLt (x y : Nat × Nat × Nat) : Prop := Prod.Lex (· < ·) (Prod.Lex (· < ·) (· < ·)) x y

section Scan

variable {P T : List UInt8}

/-- A round that does not return stands inside the text, and either steps past a wildcard and
saves it, or steps past a pattern byte and a text byte, or retries from the saved wildcard with
one more text byte taken by it. -/
theorem Scan.step_eq_next {s s' : Scan} (h : s.step P T = .next s') :
    s.t < T.length ∧
      ((∃ b, P[s.p]? = some b ∧ isWild b = true ∧ s' = ⟨s.p + 1, s.t, some (s.p, s.t)⟩) ∨
        (s.p < P.length ∧ s' = ⟨s.p + 1, s.t + 1, s.back⟩) ∨
        (∃ wp wt, s.back = some (wp, wt) ∧ s' = ⟨wp + 1, wt + 1, some (wp, wt + 1)⟩)) := by
  -- a retry is the third case, whatever the bytes were
  have retry : s.retry = .next s' →
      ∃ wp wt, s.back = some (wp, wt) ∧ s' = ⟨wp + 1, wt + 1, some (wp, wt + 1)⟩ := by
    rcases s with ⟨p, t, _ | ⟨wp, wt⟩⟩
    · simp [Scan.retry]
    · intro next
      simp only [Scan.retry, Next.next.injEq] at next
      exact ⟨wp, wt, rfl, next.symm⟩
  cases ht : T[s.t]? with
  | none => simp [Scan.step, ht] at h
  | some c =>
    refine ⟨(List.getElem?_eq_some_iff.mp ht).1, ?_⟩
    cases hp : P[s.p]? with
    | none =>
      simp only [Scan.step, ht, hp] at h
      exact .inr (.inr (retry h))
    | some b =>
      have inside := (List.getElem?_eq_some_iff.mp hp).1
      simp only [Scan.step, ht, hp] at h
      split at h
      · exact .inl ⟨b, rfl, ‹_›, (Next.next.inj h).symm⟩
      · split at h
        · exact .inr (.inl ⟨inside, (Next.next.inj h).symm⟩)
        · exact .inr (.inr (retry h))

theorem lexLt_left {a a' b b' c c' : Nat} (h : a' < a) : LexLt (a', b', c') (a, b, c) :=
  .left _ _ h

theorem lexLt_middle {a b b' c c' : Nat} (h : b' < b) : LexLt (a, b', c') (a, b, c) :=
  .right _ (.left _ _ h)

theorem lexLt_right {a b c c' : Nat} (h : c' < c) : LexLt (a, b, c') (a, b, c) :=
  .right _ (.right _ h)

/-- The saved text position of a valid scan is at or before its text position. -/
theorem Scan.Valid.savedText_le {s : Scan} (hv : s.Valid P T) : s.savedText ≤ s.t := by
  rcases s with ⟨p, t, _ | ⟨wp, wt⟩⟩
  · simp [Scan.savedText]
  · exact (hv.marked wp wt rfl).behind

/-- **Each round that does not return lowers the measure.** A wildcard saves a later text
position, or saves the same one and steps over a pattern byte; a literal step keeps the saved
position and steps over a text byte; a retry moves the saved position one byte on, which stays
inside the text because it is at or before the current one. -/
theorem Scan.lexMeasure_lt {s s' : Scan} (hv : s.Valid P T) (h : s.step P T = .next s') :
    LexLt (s'.lexMeasure P T) (s.lexMeasure P T) := by
  have saved := hv.savedText_le
  obtain ⟨within, ⟨b, hp, -, rfl⟩ | ⟨inside, rfl⟩ | ⟨wp, wt, back, rfl⟩⟩ := Scan.step_eq_next h
  · -- a wildcard: the saved position moves up to the current one, or already stands there
    have inside := (List.getElem?_eq_some_iff.mp hp).1
    simp only [Scan.lexMeasure, Scan.savedText_mark]
    by_cases same : s.savedText = s.t
    · rw [same]
      exact lexLt_right (by omega)
    · exact lexLt_left (by omega)
  · -- a literal byte: the saved position stays and the text position moves on
    simp only [Scan.lexMeasure, Scan.savedText]
    exact lexLt_middle (by omega)
  · -- a retry: the saved position moves one byte on
    have behind : s.savedText = wt := by
      simp only [Scan.savedText, back, Option.map_some, Option.getD_some]
    simp only [Scan.lexMeasure, Scan.savedText_mark, behind]
    exact lexLt_left (by omega)

/-- Every position reached from the start is valid: both positions lie within the pattern and
the text, and the saved wildcard is a backtrack mark. -/
theorem Scan.valid_of_reaches {s : Scan}
    (h : Relation.ReflTransGen (Scan.Steps P T) ⟨0, 0, none⟩ s) : s.Valid P T := by
  induction h with
  | refl => exact Scan.start_valid
  | @tail b c _ step ih =>
    have next : b.step P T = .next c := step
    have sound := Scan.step_sound ih
    rw [next] at sound
    exact sound.1

/-- From a valid position the scan returns, and running it on more rounds than its measure
gives the answer it returns. -/
theorem Scan.returns {fuel : Nat} {s : Scan} (hv : s.Valid P T) (hf : s.measure P T < fuel) :
    ∃ s₁ a, Relation.ReflTransGen (Scan.Steps P T) s s₁ ∧ s₁.step P T = .done a ∧
      Scan.run P T fuel s = a := by
  induction fuel generalizing s with
  | zero => omega
  | succ fuel ih =>
    have sound := Scan.step_sound hv
    cases h : s.step P T with
    | done a => exact ⟨s, a, .refl, h, by simp only [Scan.run, h]⟩
    | next s' =>
      rw [h] at sound
      obtain ⟨hv', -, lt⟩ := sound
      obtain ⟨s₁, a, reach, done, run⟩ := ih hv' (by omega)
      exact ⟨s₁, a, .head h reach, done, by simp only [Scan.run, h, run]⟩

end Scan

/-- **The wildcard scan terminates, in bounds.** For every pattern and text, every round of
the scan that does not return lowers, lexicographically, the text left after the position
saved with the last wildcard (zero before any), the text left, and the pattern left; every
position the scan reaches lies within the pattern and the text, so the rest of the pattern it
checks at the end exists; and the scan returns, with the answer the matcher gives. -/
theorem scan_terminates_in_bounds (P T : List UInt8) :
    (∀ s s', Relation.ReflTransGen (Scan.Steps P T) ⟨0, 0, none⟩ s → s.step P T = .next s' →
      LexLt (s'.lexMeasure P T) (s.lexMeasure P T)) ∧
    (∀ s, Relation.ReflTransGen (Scan.Steps P T) ⟨0, 0, none⟩ s →
      s.p ≤ P.length ∧ s.t ≤ T.length) ∧
    ∃ s a, Relation.ReflTransGen (Scan.Steps P T) ⟨0, 0, none⟩ s ∧ s.step P T = .done a ∧
      Scan.run P T (fuelFor P T) ⟨0, 0, none⟩ = a := by
  refine ⟨fun s s' reach next => Scan.lexMeasure_lt (Scan.valid_of_reaches reach) next,
    fun s reach => ?_, Scan.returns Scan.start_valid Scan.measure_start_lt⟩
  have hv := Scan.valid_of_reaches reach
  exact ⟨hv.p_le, hv.t_le⟩

end CausalProfiler.Pattern
