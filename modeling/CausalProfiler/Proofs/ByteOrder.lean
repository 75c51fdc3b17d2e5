import Mathlib.Tactic.SplitIfs
import CausalProfiler.Proofs.Aggregation
/-!
# Names in byte order

The tables of progress points keep their names in ascending `compare` order, which compares
strings character by character, by code point. UTF-8 keeps that order: the encodings of two
characters first differ, inside both, at a byte where the smaller character's byte is smaller
(`Text.encodeChar_differs`), so one string is below another exactly when its bytes are
(`Text.lt_iff_bytes_lt`), and a table ascends by name exactly when its names ascend byte by byte
(`Sorted.ascending_iff_bytes`).
-/
namespace CausalProfiler

namespace Text

/-- `u` is below `v` at their first difference, which lies inside both: the part of the
lexicographic order of byte lists that nothing appended to either can undo. -/
inductive Differs : List UInt8 → List UInt8 → Prop
  | head {a b : UInt8} {l l' : List UInt8} : a < b → Differs (a :: l) (b :: l')
  | tail {a : UInt8} {l l' : List UInt8} : Differs l l' → Differs (a :: l) (a :: l')

@[simp] theorem differs_cons_cons {a b : UInt8} {l l' : List UInt8} :
    Differs (a :: l) (b :: l') ↔ a < b ∨ a = b ∧ Differs l l' := by
  constructor
  · rintro (lt | rest)
    · exact Or.inl lt
    · exact Or.inr ⟨rfl, rest⟩
  · rintro (lt | ⟨rfl, rest⟩)
    · exact .head lt
    · exact .tail rest

@[simp] theorem not_differs_nil_left {v : List UInt8} : ¬ Differs [] v := nofun

@[simp] theorem not_differs_nil_right {u : List UInt8} : ¬ Differs u [] := nofun

theorem Differs.append_lt {u v : List UInt8} (h : Differs u v) (r r' : List UInt8) :
    u ++ r < v ++ r' := by
  induction h with
  | head lt => exact List.cons_lt_cons_iff.mpr (Or.inl lt)
  | tail _ ih => exact List.cons_lt_cons_iff.mpr (Or.inr ⟨rfl, ih⟩)

/-- Code points stop below `0x110000`. -/
theorem code_lt (c : Char) : c.val.toNat < 0x110000 := by
  have valid := c.valid
  simp only [UInt32.isValidChar, Nat.isValidChar] at valid
  omega

theorem toNat_byte {n : Nat} (h : n < 256) : (UInt8.ofNat n).toNat = n :=
  UInt8.toNat_ofNat_of_lt' h

/-- The encodings of two characters first differ at a byte inside both, where the smaller
character's byte is smaller. -/
theorem encodeChar_differs {c d : Char} (lt : c < d) :
    Differs (String.utf8EncodeChar c) (String.utf8EncodeChar d) := by
  have below := code_lt d
  have lt : c.val.toNat < d.val.toNat := lt
  dsimp only [String.utf8EncodeChar]
  -- one goal for each pair of encoding lengths, where every byte, being below 256, reads back
  -- as the number it is made of, and the lead bytes' moduli leave their quotients as they are
  split_ifs <;>
    simp (disch := omega) only [differs_cons_cons, not_differs_nil_left, not_differs_nil_right,
      UInt8.lt_iff_toNat_lt, ← UInt8.toNat_inj, toNat_byte, Nat.mod_eq_of_lt] <;>
    omega

theorem encodeChar_ne_nil (c : Char) : String.utf8EncodeChar c ≠ [] := by
  rw [← List.length_pos_iff, String.length_utf8EncodeChar]
  exact Char.utf8Size_pos c

/-- Encoding character by character keeps the order of character lists. -/
theorem flatMap_encodeChar_lt {s t : List Char} (h : s < t) :
    s.flatMap String.utf8EncodeChar < t.flatMap String.utf8EncodeChar := by
  induction h with
  | @nil d t =>
    obtain ⟨b, l, enc⟩ := List.exists_cons_of_ne_nil (encodeChar_ne_nil d)
    rw [List.flatMap_cons, enc, List.cons_append]
    exact List.Lex.nil
  | rel lt =>
    rw [List.flatMap_cons, List.flatMap_cons]
    exact (encodeChar_differs lt).append_lt _ _
  | cons _ ih =>
    rw [List.flatMap_cons, List.flatMap_cons]
    exact List.append_left_lt ih

theorem toList_loop (bs : ByteArray) (i : Nat) (r : List UInt8) :
    ByteArray.toList.loop bs i r = r.reverse ++ bs.data.toList.drop i := by
  fun_induction ByteArray.toList.loop bs i r with
  | case1 i r lt ih =>
    have inside : i < bs.data.toList.length := by simpa using lt
    rw [ih, List.reverse_cons, List.append_assoc, List.singleton_append,
      List.drop_eq_getElem_cons inside]
    simp only [ByteArray.get!, Array.getElem_toList, getElem!_pos bs.data i lt]
  | case2 i r ge =>
    rw [List.drop_eq_nil_of_le (by simpa using ge), List.append_nil]

theorem byteArray_toList (bs : ByteArray) : bs.toList = bs.data.toList := by
  rw [ByteArray.toList, toList_loop, List.reverse_nil, List.nil_append, List.drop_zero]

/-- The bytes of a string are its characters' encodings, one after another. -/
theorem toList_toUTF8 (s : String) :
    s.toUTF8.toList = s.toList.flatMap String.utf8EncodeChar := by
  rw [String.toUTF8_eq_toByteArray, ← String.utf8Encode_toList, List.utf8Encode,
    byteArray_toList, List.toList_data_toByteArray]

/-- One string is below another exactly when its bytes are, compared lexicographically. -/
theorem lt_iff_bytes_lt {a b : String} : a < b ↔ a.toUTF8.toList < b.toUTF8.toList := by
  rw [toList_toUTF8, toList_toUTF8]
  constructor
  · exact flatMap_encodeChar_lt
  · intro bytes
    -- the other two outcomes of comparing the strings would order the bytes the other way
    apply Classical.byContradiction
    intro not_lt
    by_cases gt : b < a
    · exact List.lt_asymm bytes (flatMap_encodeChar_lt gt)
    · have same : a = b := String.le_antisymm gt not_lt
      subst same
      exact List.lt_irrefl _ bytes

theorem compare_eq_lt_iff_bytes {a b : String} :
    compare a b = .lt ↔ a.toUTF8.toList < b.toUTF8.toList := by
  rw [← lt_iff_bytes_lt]
  exact compareOfLessAndEq_eq_lt

end Text

namespace Sorted

/-- A table keyed by names ascends exactly when its names ascend byte by byte. -/
theorem ascending_iff_bytes {β : Type} (l : List (String × β)) :
    Ascending l ↔ (l.map Prod.fst).Pairwise (fun a b => a.toUTF8.toList < b.toUTF8.toList) := by
  rw [Ascending, List.pairwise_map]
  exact List.Pairwise.iff fun _ _ => Text.compare_eq_lt_iff_bytes

end Sorted

end CausalProfiler
