import CausalProfiler.Pattern
import Mathlib.Data.List.Forall2
/-!
# The language of a wildcard pattern

A text is in a pattern's language when it splits into one piece per pattern byte: any run of
bytes for a wildcard, the byte itself for any other (`Splits`). The matcher scans the text once
and keeps a single backtrack point, the last wildcard; this module shows that this is enough.

* `Scan.step_sound`: one round of the scan either answers the question still open at its
  position, or moves to a valid position, closer to the end, where the same question is open.
  The question (`Scan.Open`) is whether the rest of the text matches the rest of the pattern,
  or else whether the last wildcard can take one more byte and the rest match from there. A
  new wildcard may forget the old one because only literal bytes lie between them: whatever
  the old wildcard could reach, the new one reaches too (`Marked.reaches`).
* `Scan.run_iff`: on fuel above the position's measure, the scan answers the open question;
  `fuelFor` is above the start's measure.
* `accepts_iff_splits`: the matcher decides the language, and a list of patterns matches
  exactly when one of them does.
-/
namespace CausalProfiler.Pattern

/-- A text is in a pattern's language when it splits into one piece per pattern byte: any
piece for a wildcard, the byte alone for any other. -/
def Splits (pattern text : List UInt8) : Prop :=
  ∃ pieces : List (List UInt8), pieces.flatten = text ∧
    List.Forall₂ (fun b piece => isWild b = true ∨ piece = [b]) pattern pieces

section Splits

variable {b : UInt8} {ps t : List UInt8}

theorem splits_nil_left : Splits [] t ↔ t = [] := by
  constructor
  · rintro ⟨pieces, rfl, h⟩
    rw [List.forall₂_nil_left_iff.mp h]
    rfl
  · rintro rfl
    exact ⟨[], rfl, .nil⟩

/-- The first pattern byte takes a first piece of the text, and the rest of the pattern the
rest of the text. -/
theorem splits_cons :
    Splits (b :: ps) t ↔ ∃ u v, t = u ++ v ∧ (isWild b = true ∨ u = [b]) ∧ Splits ps v := by
  constructor
  · rintro ⟨pieces, rfl, h⟩
    obtain ⟨u, rest, hu, hrest, rfl⟩ := List.forall₂_cons_left_iff.mp h
    exact ⟨u, rest.flatten, by simp, hu, rest, rfl, hrest⟩
  · rintro ⟨u, v, rfl, hu, pieces, rfl, h⟩
    exact ⟨u :: pieces, by simp, .cons hu h⟩

/-- A literal byte takes exactly itself. -/
theorem splits_byte (hb : isWild b = false) :
    Splits (b :: ps) t ↔ ∃ t', t = b :: t' ∧ Splits ps t' := by
  rw [splits_cons]
  constructor
  · rintro ⟨u, v, rfl, hu | rfl, hv⟩
    · rw [hb] at hu
      cases hu
    · exact ⟨v, rfl, hv⟩
  · rintro ⟨t', rfl, h⟩
    exact ⟨[b], t', rfl, .inr rfl, h⟩

/-- A wildcard takes nothing, or one byte and stays. -/
theorem splits_wild (hb : isWild b = true) :
    Splits (b :: ps) t ↔ Splits ps t ∨ ∃ c t', t = c :: t' ∧ Splits (b :: ps) t' := by
  simp only [splits_cons, hb, true_or, true_and]
  constructor
  · rintro ⟨u, v, rfl, hv⟩
    cases u with
    | nil => exact .inl hv
    | cons c u => exact .inr ⟨c, u ++ v, rfl, u, v, rfl, hv⟩
  · rintro (h | ⟨c, t', rfl, u, v, rfl, hv⟩)
    · exact ⟨[], t, rfl, h⟩
    · exact ⟨c :: u, v, rfl, hv⟩

/-- The empty text is in the language of the patterns made of wildcards only. -/
theorem splits_nil_right : Splits ps [] ↔ ps.all isWild = true := by
  induction ps with
  | nil => exact ⟨fun _ => rfl, fun _ => splits_nil_left.mpr rfl⟩
  | cons b ps ih =>
    cases hb : isWild b with
    | false => simp [splits_byte hb, hb]
    | true =>
      rw [splits_wild hb]
      simp [hb, ih]

/-- A wildcard that can start later can start earlier, taking the bytes in between. -/
theorem splits_wild_of_drop (hb : isWild b = true) (k : Nat) (h : Splits (b :: ps) (t.drop k)) :
    Splits (b :: ps) t := by
  obtain ⟨u, v, split, -, hv⟩ := splits_cons.mp h
  refine splits_cons.mpr ⟨t.take k ++ u, v, ?_, .inl hb, hv⟩
  rw [List.append_assoc, ← split, List.take_append_drop]

end Splits

/-! ## Positions

The scan stands at a position of the pattern and one of the text; what is left to match is a
question about the two rests. -/

section Positions

variable {P T : List UInt8} {p t : Nat} {b : UInt8}

/-- The rest of the text from `t` is in the language of the rest of the pattern from `p`. -/
def Rest (P T : List UInt8) (p t : Nat) : Prop := Splits (P.drop p) (T.drop t)

theorem drop_eq_cons_of_getElem? {l : List UInt8} {i : Nat} {a : UInt8} (h : l[i]? = some a) :
    l.drop i = a :: l.drop (i + 1) := by
  obtain ⟨lt, rfl⟩ := List.getElem?_eq_some_iff.mp h
  exact List.drop_eq_getElem_cons lt

theorem rest_of_pattern_end (hp : P.length ≤ p) : Rest P T p t ↔ T.length ≤ t := by
  rw [Rest, List.drop_eq_nil_of_le hp, splits_nil_left, List.drop_eq_nil_iff]

theorem rest_of_text_end (ht : T.length ≤ t) : Rest P T p t ↔ (P.drop p).all isWild = true := by
  rw [Rest, List.drop_eq_nil_of_le ht, splits_nil_right]

theorem rest_byte (hp : P[p]? = some b) (hb : isWild b = false) :
    Rest P T p t ↔ T[t]? = some b ∧ Rest P T (p + 1) (t + 1) := by
  rw [Rest, drop_eq_cons_of_getElem? hp, splits_byte hb]
  cases ht : T[t]? with
  | none =>
    rw [List.drop_eq_nil_of_le (List.getElem?_eq_none_iff.mp ht)]
    simp
  | some c =>
    rw [drop_eq_cons_of_getElem? ht]
    simp [Rest, eq_comm]

theorem rest_wild (hp : P[p]? = some b) (hb : isWild b = true) :
    Rest P T p t ↔ Rest P T (p + 1) t ∨ (t < T.length ∧ Rest P T p (t + 1)) := by
  unfold Rest
  rw [drop_eq_cons_of_getElem? hp, splits_wild hb]
  cases ht : T[t]? with
  | none =>
    have past := List.getElem?_eq_none_iff.mp ht
    rw [List.drop_eq_nil_of_le past]
    simp only [reduceCtorEq, false_and, exists_false, or_false, iff_self_or, and_imp]
    omega
  | some c =>
    have within := (List.getElem?_eq_some_iff.mp ht).1
    rw [drop_eq_cons_of_getElem? ht]
    simp [within]

/-- A wildcard that matches from a later text position matches from an earlier one. -/
theorem rest_wild_absorb (hp : P[p]? = some b) (hb : isWild b = true) {k : Nat} (hk : t ≤ k)
    (h : Rest P T p k) : Rest P T p t := by
  unfold Rest at h ⊢
  rw [drop_eq_cons_of_getElem? hp] at h ⊢
  have shift : T.drop k = (T.drop t).drop (k - t) := by
    rw [List.drop_drop, Nat.add_sub_cancel' hk]
  rw [shift] at h
  exact splits_wild_of_drop hb _ h

/-- A wildcard that matches from `t` leaves the rest of the pattern a text position at or after
`t`, within the text. -/
theorem rest_wild_expand (hp : P[p]? = some b) (hb : isWild b = true) (ht : t ≤ T.length)
    (h : Rest P T p t) : ∃ k, t ≤ k ∧ k ≤ T.length ∧ Rest P T (p + 1) k := by
  induction hd : T.length - t generalizing t with
  | zero => exact ⟨t, Nat.le_refl t, ht, ((rest_wild hp hb).mp h).resolve_right (by omega)⟩
  | succ d ih =>
    rcases (rest_wild hp hb).mp h with here | ⟨-, later⟩
    · exact ⟨t, Nat.le_refl t, ht, here⟩
    · obtain ⟨k, hk, kle, hr⟩ := ih (by omega) later (by omega)
      exact ⟨k, by omega, kle, hr⟩

/-- Literal pattern bytes from `q` to `p` take as many text bytes: a match of the rest from `q`
at text position `k` is a match of the rest from `p` at `k + (p - q)`. -/
theorem rest_literal {q : Nat} (hqp : q ≤ p) (hp : p ≤ P.length)
    (literal : ∀ j c, q ≤ j → j < p → P[j]? = some c → isWild c = false) {k : Nat}
    (hk : k ≤ T.length) (h : Rest P T q k) : k + (p - q) ≤ T.length ∧ Rest P T p (k + (p - q)) := by
  induction hd : p - q generalizing q k with
  | zero =>
    have : q = p := by omega
    subst this
    exact ⟨by omega, h⟩
  | succ d ih =>
    obtain ⟨c, hc⟩ : ∃ c, P[q]? = some c := ⟨P[q], List.getElem?_eq_getElem (by omega)⟩
    obtain ⟨byte, next⟩ := (rest_byte hc (literal q c (Nat.le_refl q) (by omega) hc)).mp h
    have kin : k < T.length := (List.getElem?_eq_some_iff.mp byte).1
    obtain ⟨fits, rest⟩ := ih (by omega) (fun j c hj => literal j c (by omega)) (by omega) next
      (by omega)
    have shift : k + 1 + d = k + (d + 1) := by omega
    rw [shift] at fits rest
    exact ⟨fits, rest⟩

end Positions

/-! ## The scan's invariant -/

section Scan

variable {P T : List UInt8}

/-- A backtrack mark `(wp, wt)` for position `(p, t)`: the pattern holds a wildcard at `wp`,
and between it and `p` only literal bytes, as many as the text bytes from `wt` to `t`. -/
structure Marked (P : List UInt8) (wp wt p t : Nat) : Prop where
  behind : wt ≤ t
  wild : ∃ b, P[wp]? = some b ∧ isWild b = true
  span : p = wp + 1 + (t - wt)
  literal : ∀ j c, wp < j → j < p → P[j]? = some c → isWild c = false

/-- A scan position inside the pattern and the text, whose mark, if any, is a backtrack mark. -/
structure Scan.Valid (P T : List UInt8) (s : Scan) : Prop where
  p_le : s.p ≤ P.length
  t_le : s.t ≤ T.length
  marked : ∀ wp wt, s.back = some (wp, wt) → Marked P wp wt s.p s.t

/-- What is still open at a scan position: whether the rest of the text matches the rest of the
pattern, or else whether the marked wildcard can take one more byte from where it stands. -/
def Scan.Open (P T : List UInt8) (s : Scan) : Prop :=
  Rest P T s.p s.t ∨ ∃ wp wt, s.back = some (wp, wt) ∧ wt < T.length ∧ Rest P T wp (wt + 1)

/-- A bound on the rounds left: each round moves the mark forward, or keeps it and moves
forward in the pattern or the text. -/
def Scan.measure (P T : List UInt8) (s : Scan) : Nat :=
  (T.length + 1 - (s.back.map (·.2)).getD 0) * (P.length + T.length + 2) +
    (P.length - s.p) + (T.length - s.t)

/-- Whatever the marked wildcard can still reach leaves the rest of the pattern from the current
position matching from a text position beyond the current one. -/
theorem Marked.reaches {wp wt p t : Nat} (m : Marked P wp wt p t) (hp : p ≤ P.length)
    (h : wt < T.length ∧ Rest P T wp (wt + 1)) : ∃ k, t < k ∧ k ≤ T.length ∧ Rest P T p k := by
  obtain ⟨b, hb, wild⟩ := m.wild
  obtain ⟨k, hk, kle, hr⟩ := rest_wild_expand hb wild (by omega) h.2
  obtain ⟨fits, rest⟩ := rest_literal (by have := m.span; omega) hp
    (fun j c hj => m.literal j c (by omega)) kle hr
  refine ⟨k + (p - (wp + 1)), ?_, fits, rest⟩
  have := m.span
  have := m.behind
  omega

theorem Scan.open_marked {p t wp wt : Nat} :
    Scan.Open P T ⟨p, t, some (wp, wt)⟩ ↔ Rest P T p t ∨ (wt < T.length ∧ Rest P T wp (wt + 1)) := by
  simp [Scan.Open]

theorem Scan.open_unmarked {p t : Nat} : Scan.Open P T ⟨p, t, none⟩ ↔ Rest P T p t := by
  simp [Scan.Open]

/-- What a round must give at a valid position: the answer to the open question, or a valid
position closer to the end where the same question is open. -/
def Next.Sound (P T : List UInt8) (s : Scan) : Next → Prop
  | .done a => (a = true ↔ s.Open P T)
  | .next s' => s'.Valid P T ∧ (s'.Open P T ↔ s.Open P T) ∧ s'.measure P T < s.measure P T

/-- At the end of the text the mark can reach nothing more, and what is open is whether the
rest of the pattern is all wildcards. -/
theorem Scan.open_at_end {s : Scan} (hv : s.Valid P T) (ht : T.length ≤ s.t) :
    s.Open P T ↔ (P.drop s.p).all isWild = true := by
  rw [Scan.Open, rest_of_text_end ht]
  constructor
  · rintro (h | ⟨wp, wt, back, h⟩)
    · exact h
    · obtain ⟨k, hk, kle, -⟩ := (hv.marked wp wt back).reaches hv.p_le h
      omega
  · exact .inl

/-- Stepping past a wildcard and marking it keeps the question: the new mark reaches whatever
the old one did. -/
theorem Scan.step_wild {s : Scan} (hv : s.Valid P T) {b : UInt8} (hp : P[s.p]? = some b)
    (hb : isWild b = true) (ht : s.t < T.length) :
    (Next.next ⟨s.p + 1, s.t, some (s.p, s.t)⟩).Sound P T s := by
  have hpl : s.p < P.length := (List.getElem?_eq_some_iff.mp hp).1
  have unfold := rest_wild (T := T) (t := s.t) hp hb
  refine ⟨⟨by simp only; omega, hv.t_le, ?_⟩, ?_, ?_⟩
  · rintro wp wt ⟨⟩
    exact ⟨Nat.le_refl _, ⟨b, hp, hb⟩, by simp only; omega, fun j c h₁ h₂ => by simp only at h₂; omega⟩
  · rw [Scan.open_marked, ← unfold]
    constructor
    · exact .inl
    · rintro (h | ⟨wp, wt, back, reach⟩)
      · exact h
      · obtain ⟨k, hk, -, hr⟩ := (hv.marked wp wt back).reaches hv.p_le reach
        exact rest_wild_absorb hp hb (Nat.le_of_lt hk) hr
  · rcases s with ⟨p, t, back⟩
    have hb : ((back.map (·.2)).getD 0) ≤ t := by
      cases back with
      | none => simp
      | some m => simpa using (hv.marked m.1 m.2 rfl).behind
    simp only [Scan.measure, Option.map_some, Option.getD_some] at hb hpl ⊢
    have le : (T.length + 1 - t) * (P.length + T.length + 2) ≤
        (T.length + 1 - (back.map (·.2)).getD 0) * (P.length + T.length + 2) :=
      Nat.mul_le_mul_right _ (by omega)
    omega

/-- Stepping over an equal literal byte keeps the question, and the mark, which gains one more
literal byte behind it. -/
theorem Scan.step_byte {s : Scan} (hv : s.Valid P T) {b : UInt8} (hp : P[s.p]? = some b)
    (hb : isWild b = false) (ht : T[s.t]? = some b) :
    (Next.next ⟨s.p + 1, s.t + 1, s.back⟩).Sound P T s := by
  have hpl : s.p < P.length := (List.getElem?_eq_some_iff.mp hp).1
  have htl : s.t < T.length := (List.getElem?_eq_some_iff.mp ht).1
  refine ⟨⟨by simp only; omega, by simp only; omega, ?_⟩, ?_, ?_⟩
  · intro wp wt back
    have m := hv.marked wp wt back
    refine ⟨by simp only; have := m.behind; omega, m.wild, by simp only; have := m.span; have := m.behind; omega, ?_⟩
    intro j c h₁ h₂ hc
    simp only at h₂
    rcases Nat.lt_or_ge j s.p with lt | ge
    · exact m.literal j c h₁ lt hc
    · have : j = s.p := by omega
      subst this
      rw [hp] at hc
      cases hc
      exact hb
  · simp only [Scan.Open, rest_byte hp hb, ht, true_and]
  · simp only [Scan.measure]
    omega

/-- Where the byte does not match, only the mark is left: the scan fails without one, and
otherwise lets the marked wildcard take one more byte. -/
theorem Scan.retry_sound {s : Scan} (hv : s.Valid P T) (miss : ¬ Rest P T s.p s.t)
    (ht : s.t < T.length) : s.retry.Sound P T s := by
  rcases s with ⟨p, t, _ | ⟨wp, wt⟩⟩
  · simp only [Scan.retry, Next.Sound, Scan.open_unmarked, miss, Bool.false_eq_true]
  · have m := hv.marked wp wt rfl
    obtain ⟨b, hb, wild⟩ := m.wild
    have hwp : wp < P.length := (List.getElem?_eq_some_iff.mp hb).1
    have behind := m.behind
    have span := m.span
    simp only at behind span ht
    refine ⟨⟨by simp only; omega, by simp only; omega, ?_⟩, ?_, ?_⟩
    · rintro wp' wt' ⟨⟩
      exact ⟨Nat.le_refl _, ⟨b, hb, wild⟩, by simp only; omega, fun j c h₁ h₂ => by simp only at h₂; omega⟩
    · rw [Scan.open_marked, Scan.open_marked, ← rest_wild hb wild]
      constructor
      · intro h
        exact .inr ⟨by omega, h⟩
      · rintro (h | ⟨-, h⟩)
        · exact absurd h miss
        · exact h
    · simp only [Scan.measure, Option.map_some, Option.getD_some]
      have more : T.length + 1 - wt = (T.length + 1 - (wt + 1)) + 1 := by omega
      rw [more, Nat.add_mul, Nat.one_mul]
      omega

/-- One round of the scan at a valid position gives what `Next.Sound` asks. -/
theorem Scan.step_sound {s : Scan} (hv : s.Valid P T) : (s.step P T).Sound P T s := by
  cases ht : T[s.t]? with
  | none =>
    simp only [Scan.step, ht, Next.Sound]
    exact (Scan.open_at_end hv (List.getElem?_eq_none_iff.mp ht)).symm
  | some c =>
    have within := (List.getElem?_eq_some_iff.mp ht).1
    cases hp : P[s.p]? with
    | none =>
      -- past the end of the pattern with text left: only the mark can help
      have miss : ¬ Rest P T s.p s.t := by
        rw [rest_of_pattern_end (List.getElem?_eq_none_iff.mp hp)]
        omega
      simp only [Scan.step, ht, hp]
      exact Scan.retry_sound hv miss within
    | some b =>
      cases hb : isWild b with
      | true =>
        simp only [Scan.step, ht, hp, hb, if_true]
        exact Scan.step_wild hv hp hb within
      | false =>
        by_cases same : b = c
        · subst same
          simp only [Scan.step, ht, hp, hb, beq_self_eq_true, if_true, Bool.false_eq_true, if_false]
          exact Scan.step_byte hv hp hb ht
        · have miss : ¬ Rest P T s.p s.t := by
            rw [rest_byte hp hb, ht]
            rintro ⟨eq, -⟩
            exact same (Option.some.inj eq).symm
          have differ : (b == c) = false := beq_false_of_ne same
          simp only [Scan.step, ht, hp, hb, differ, Bool.false_eq_true, if_false]
          exact Scan.retry_sound hv miss within

/-- On fuel above the measure, the scan answers what is open at a valid position. -/
theorem Scan.run_iff {fuel : Nat} {s : Scan} (hv : s.Valid P T) (hf : s.measure P T < fuel) :
    Scan.run P T fuel s = true ↔ s.Open P T := by
  induction fuel generalizing s with
  | zero => omega
  | succ fuel ih =>
    have sound := Scan.step_sound hv
    cases h : s.step P T with
    | done a =>
      rw [h] at sound
      simp only [Scan.run, h]
      exact sound
    | next s' =>
      rw [h] at sound
      obtain ⟨hv', same, lt⟩ := sound
      simp only [Scan.run, h]
      rw [ih hv' (by omega), same]

theorem Scan.start_valid : Scan.Valid P T ⟨0, 0, none⟩ :=
  ⟨Nat.zero_le _, Nat.zero_le _, fun _ _ h => by cases h⟩

/-- The fuel the matcher gives is above the measure of the start. -/
theorem Scan.measure_start_lt : Scan.measure P T ⟨0, 0, none⟩ < fuelFor P T := by
  have more : (T.length + 2) * (P.length + T.length + 2) =
      (T.length + 1) * (P.length + T.length + 2) + (P.length + T.length + 2) :=
    Nat.succ_mul _ _
  simp only [Scan.measure, fuelFor, Option.map_none, Option.getD_none, Nat.sub_zero, more]
  omega

/-- The scan from the start decides the language. -/
theorem run_fuelFor_iff (P T : List UInt8) :
    Scan.run P T (fuelFor P T) ⟨0, 0, none⟩ = true ↔ Splits P T := by
  rw [Scan.run_iff Scan.start_valid Scan.measure_start_lt, Scan.open_unmarked]
  rfl

end Scan

/-- **The matcher decides the wildcard language.** Over the bytes of pattern and text, a text
matches a pattern exactly when it splits into one piece per pattern byte, any piece for `%`
or `*` and the byte itself for any other; and a list of patterns matches a text exactly when
one of its patterns does. -/
theorem accepts_iff_splits :
    (∀ pattern text : String,
      accepts pattern text = true ↔ Splits pattern.toUTF8.toList text.toUTF8.toList) ∧
    ∀ (patterns : List String) (text : String),
      matchesAny patterns text = true ↔
        ∃ pattern ∈ patterns, Splits pattern.toUTF8.toList text.toUTF8.toList := by
  have single : ∀ pattern text : String,
      accepts pattern text = true ↔ Splits pattern.toUTF8.toList text.toUTF8.toList :=
    fun pattern text => run_fuelFor_iff _ _
  refine ⟨single, fun patterns text => ?_⟩
  simp only [matchesAny, List.any_eq_true, single]

/-- A mismatch right after a wildcard lets it take more; a missing last byte fails. -/
example : accepts "a%b%c" "axxbyyc" = true ∧ accepts "a%b%c" "axxbyy" = false := by
  decide +kernel

end CausalProfiler.Pattern
