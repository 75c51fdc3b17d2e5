import CausalProfiler.Proofs.LogText
import Mathlib.Data.List.Find
/-!
# Looking a line up by its name

A line is named `file:number`; the fixed-line setting names a line that way. Looking a name up
splits it at its last `:` and reads the number after it, blanks trimmed, as a 32-bit word. A
line with exactly that file and number is the answer; otherwise the first line, by id, with that
number whose file ends with `/` and then the given file; otherwise none.

A built map holds one line per file and number (`SourceMapBuilder.Keyed`), so:

* `findByName?_parts`: a name `f:t` with no `:` in `t` is looked up as file `f` and the number
  read from `t`;
* `isPathSuffix_iff`: the suffix test accepts the path itself and the paths `h/f`;
* `findByName?_exact`, `findByName?_of_no_exact`: the exact line wins, else the first line
  whose path ends in the file at a `/`;
* `line_names_round_trip`: every line's own name finds it, so a line named in the log can be
  fixed by that name.
-/
namespace CausalProfiler

namespace SourceMapBuilder

/-- A builder reached from the empty one by adding ranges, each line number a 32-bit word as the
program's line numbers are. -/
inductive Grown : SourceMapBuilder → Prop
  | empty : Grown .empty
  | addWith {b : SourceMapBuilder} (start stop : Nat) (file : String) (line : Nat) (internal : Bool)
      (grown : Grown b) (fits : line < Nat.pow 2 32) : Grown (b.addWith start stop file line internal)

/-- One line per file and number, each number a 32-bit word. -/
structure Keyed (b : SourceMapBuilder) : Prop where
  distinct : (b.lines.map fun l => (l.file, l.line)).Nodup
  fits : ∀ l ∈ b.lines, l.line < Nat.pow 2 32

theorem keyed_empty : Keyed .empty := ⟨List.nodup_nil, fun _ mem => by cases mem⟩

/-- A line's id leaves the lines as they are, or appends a line with a file and number that no
line has. -/
theorem lines_lineId (b : SourceMapBuilder) (file : String) (line : Nat) (internal : Bool) :
    (b.lineId file line internal).2.lines = b.lines ∨
      ((∀ l ∈ b.lines, (l.file, l.line) ≠ (file, line)) ∧
        (b.lineId file line internal).2.lines = b.lines ++ [⟨file, line, internal⟩]) := by
  unfold lineId
  split
  · exact .inl rfl
  · rename_i absent
    refine .inr ⟨fun l mem same => ?_, rfl⟩
    have := List.findIdx?_eq_none_iff.mp absent l mem
    simp only [Prod.mk.injEq] at same
    simp [same] at this

theorem lines_addWith (b : SourceMapBuilder) (start stop : Nat) (file : String) (line : Nat)
    (internal : Bool) :
    (b.addWith start stop file line internal).lines = b.lines ∨
      (b.addWith start stop file line internal).lines = (b.lineId file line internal).2.lines := by
  unfold SourceMapBuilder.addWith
  split
  · exact .inl rfl
  · exact .inr rfl

/-- Adding a range adds its line only when no line has its file and number. -/
theorem Keyed.addWith {b : SourceMapBuilder} (h : b.Keyed) (start stop : Nat) (file : String)
    (line : Nat) (internal : Bool) (fits : line < Nat.pow 2 32) :
    (b.addWith start stop file line internal).Keyed := by
  have same_lines : ∀ b' : SourceMapBuilder, b'.lines = b.lines → b'.Keyed := fun b' eq =>
    ⟨eq ▸ h.distinct, eq ▸ h.fits⟩
  rcases lines_addWith b start stop file line internal with kept | added
  · exact same_lines _ kept
  rcases lines_lineId b file line internal with kept' | ⟨fresh, appended⟩
  · exact same_lines _ (added.trans kept')
  refine ⟨?_, ?_⟩
  · rw [added, appended, List.map_append, List.map_singleton]
    refine List.nodup_append.mpr ⟨h.distinct, List.pairwise_singleton _ _, ?_⟩
    intro key mem key' mem'
    obtain ⟨l, inLines, rfl⟩ := List.mem_map.mp mem
    rw [List.mem_singleton.mp mem']
    exact fresh l inLines
  · intro l mem
    rw [added, appended] at mem
    rcases List.mem_append.mp mem with old | new
    · exact h.fits l old
    · rw [List.mem_singleton.mp new]
      exact fits

theorem Grown.keyed {b : SourceMapBuilder} (h : b.Grown) : b.Keyed := by
  induction h with
  | empty => exact keyed_empty
  | addWith start stop file line internal _ fits ih => exact ih.addWith start stop file line internal fits

end SourceMapBuilder

namespace SourceMap

/-- Line `i` has file `f` and number `n`. -/
def exactAt (m : SourceMap) (f : String) (n i : Nat) : Bool :=
  m.lines[i]?.any fun l => decide (l.line = n) && decide (l.file = f)

/-- Line `i` has number `n` and a file that is `f` or ends with it at a `/`. -/
def suffixAt (m : SourceMap) (f : String) (n i : Nat) : Bool :=
  m.lines[i]?.any fun l => decide (l.line = n) && isPathSuffix l.file f

/-- Line `id` has number `n` and a file that ends with `/` and then `f`. -/
def PathSuffixLine (m : SourceMap) (f : String) (n id : Nat) : Prop :=
  ∃ l, m.lines[id]? = some l ∧ l.line = n ∧ ∃ h, l.file = h ++ "/" ++ f

/-! ## Reading a name -/

/-- Splitting at the last `:`: the text before it and the text after it. -/
theorem split_last_colon (f t : List Char) (noColon : ':' ∉ t) :
    ((f ++ ':' :: t).reverse.takeWhile (· ≠ ':')).reverse = t ∧
      (((f ++ ':' :: t).reverse.dropWhile (· ≠ ':')).drop 1).reverse = f := by
  have notColon : ∀ c ∈ t.reverse, decide (c ≠ ':') = true := fun c mem => by
    rw [decide_eq_true_eq]
    rintro rfl
    exact noColon (List.mem_reverse.mp mem)
  simp only [List.reverse_append, List.reverse_cons, List.append_assoc, List.singleton_append,
    List.takeWhile_append_of_pos notColon, List.dropWhile_append_of_pos notColon]
  simp

/-- A name `f:t` whose text `t` after the last `:` reads as the number `n` names file `f`
and number `n`: the lookup searches the lines with that number, first for the file itself,
then for a path ending in it. -/
theorem findByName?_parts (m : SourceMap) (f t : String) (noColon : ':' ∉ t.toList) (n : Nat)
    (number : Number.readNat? (Nat.pow 2 32 - 1) (Text.trimString t) = some n) :
    m.findByName? (f ++ ":" ++ t) =
      ((List.range m.lines.length).find? (m.exactAt f n) <|>
        (List.range m.lines.length).find? (m.suffixAt f n)) := by
  have chars : (f ++ ":" ++ t).toList = f.toList ++ ':' :: t.toList := by simp
  obtain ⟨after, before⟩ := split_last_colon f.toList t.toList noColon
  unfold findByName?
  simp only [chars, after, before, String.ofList_toList, List.contains_append, number]
  rw [if_neg (by simp), List.find?_filter, List.find?_filter]
  -- the lookup's two searches test the line's number and then its file
  split
  · rename_i i found
    have exact : (List.range m.lines.length).find? (m.exactAt f n) = some i :=
      (List.find?_congr fun j _ => by unfold exactAt; cases m.lines[j]? <;> simp).symm.trans found
    rw [exact]
    rfl
  · rename_i missing
    have noExact : (List.range m.lines.length).find? (m.exactAt f n) = none :=
      (List.find?_congr fun j _ => by unfold exactAt; cases m.lines[j]? <;> simp).symm.trans missing
    rw [noExact]
    exact List.find?_congr fun j _ => by unfold suffixAt; cases m.lines[j]? <;> simp

/-! ## What the two searches accept -/

/-- The suffix test accepts the path itself and the paths that end with `/` and then the
suffix. -/
theorem isPathSuffix_iff (path suffix : String) :
    isPathSuffix path suffix = true ↔ path = suffix ∨ ∃ h, path = h ++ "/" ++ suffix := by
  have length : path.length = path.toList.length := String.length_toList.symm
  unfold isPathSuffix
  rw [length, ← String.length_toList, Bool.and_eq_true, List.isSuffixOf_iff_suffix]
  constructor
  · rintro ⟨⟨h, split⟩, head⟩
    have taken : path.toList.take (path.toList.length - suffix.toList.length) = h := by
      rw [← split, List.length_append, Nat.add_sub_cancel, List.take_left]
    rw [taken, Bool.or_eq_true, List.isEmpty_iff, beq_iff_eq] at head
    rcases head with rfl | slash
    · left
      rw [← String.toList_inj, ← split, List.nil_append]
    · right
      obtain ⟨h', rfl⟩ := List.getLast?_eq_some_iff.mp slash
      refine ⟨String.ofList h', ?_⟩
      rw [← String.toList_inj, ← split]
      simp
  · rintro (rfl | ⟨h, rfl⟩)
    · simp
    · have joined : (h ++ "/" ++ suffix).toList = (h.toList ++ ['/']) ++ suffix.toList := by simp
      refine ⟨⟨(h ++ "/").toList, by simp⟩, ?_⟩
      rw [joined, List.length_append, Nat.add_sub_cancel, List.take_left]
      simp

theorem exactAt_iff (m : SourceMap) (f : String) (n i : Nat) :
    m.exactAt f n i = true ↔ ∃ l, m.lines[i]? = some l ∧ l.file = f ∧ l.line = n := by
  unfold exactAt
  cases m.lines[i]? <;> simp [and_comm]

/-- The suffix search accepts the lines the exact search accepts, and those whose path ends
with `/` and the file. -/
theorem suffixAt_iff (m : SourceMap) (f : String) (n i : Nat) :
    m.suffixAt f n i = true ↔ m.exactAt f n i = true ∨ m.PathSuffixLine f n i := by
  rw [exactAt_iff]
  unfold suffixAt PathSuffixLine
  cases m.lines[i]? with
  | none => simp
  | some l =>
    simp only [Option.any_some, Bool.and_eq_true, decide_eq_true_eq, isPathSuffix_iff,
      Option.some.injEq, exists_eq_left']
    tauto

/-! ## The lookup -/

section Lookup

variable {m : SourceMap} {f t : String} {n : Nat}

/-- Two lines with one file and number are one line, when no file and number repeat. -/
theorem eq_of_same_key (distinct : (m.lines.map fun l => (l.file, l.line)).Nodup) {i j : Nat}
    {a b : SourceLine} (ha : m.lines[i]? = some a) (hb : m.lines[j]? = some b)
    (file : a.file = b.file) (line : a.line = b.line) : i = j := by
  have inside : i < (m.lines.map fun l => (l.file, l.line)).length := by
    rw [List.length_map]
    exact (List.getElem?_eq_some_iff.mp ha).1
  rw [← List.getElem?_inj inside distinct, List.getElem?_map, List.getElem?_map, ha, hb]
  simp [file, line]

/-- The exact search finds the one line of its file and number. -/
theorem find?_exactAt (distinct : (m.lines.map fun l => (l.file, l.line)).Nodup) {id : Nat}
    {l : SourceLine} (h : m.lines[id]? = some l) :
    (List.range m.lines.length).find? (m.exactAt l.file l.line) = some id := by
  rw [List.find?_range_eq_some]
  refine ⟨(exactAt_iff ..).mpr ⟨l, h, rfl, rfl⟩,
    List.mem_range.mpr (List.getElem?_eq_some_iff.mp h).1, fun j before => ?_⟩
  cases found : m.exactAt l.file l.line j with
  | false => rfl
  | true =>
    obtain ⟨l', h', file, line⟩ := (exactAt_iff ..).mp found
    exact absurd (eq_of_same_key distinct h' h file line) (Nat.ne_of_lt before)

/-- A name of a line's file and number finds that line. -/
theorem findByName?_exact (distinct : (m.lines.map fun l => (l.file, l.line)).Nodup)
    (noColon : ':' ∉ t.toList) (number : Number.readNat? (Nat.pow 2 32 - 1) (Text.trimString t) = some n)
    {id : Nat} {l : SourceLine} (h : m.lines[id]? = some l) (file : l.file = f) (line : l.line = n) :
    m.findByName? (f ++ ":" ++ t) = some id := by
  rw [findByName?_parts m f t noColon n number, ← file, ← line, find?_exactAt distinct h]
  rfl

/-- Without a line of the name's file and number, the lookup finds the first line whose path
ends with `/` and the file, and none when there is none. -/
theorem findByName?_of_no_exact (noColon : ':' ∉ t.toList)
    (number : Number.readNat? (Nat.pow 2 32 - 1) (Text.trimString t) = some n)
    (noExact : ∀ l ∈ m.lines, ¬ (l.file = f ∧ l.line = n)) :
    (∀ id, m.findByName? (f ++ ":" ++ t) = some id ↔
      m.PathSuffixLine f n id ∧ ∀ j < id, ¬ m.PathSuffixLine f n j) ∧
    (m.findByName? (f ++ ":" ++ t) = none ↔ ∀ j, ¬ m.PathSuffixLine f n j) := by
  have never : ∀ i, m.exactAt f n i = false := fun i => by
    cases found : m.exactAt f n i with
    | false => rfl
    | true =>
      obtain ⟨l, h, file, line⟩ := (exactAt_iff ..).mp found
      exact absurd ⟨file, line⟩ (noExact l (List.mem_of_getElem? h))
  -- with no exact line, the suffix search accepts exactly the lines whose path ends in the file
  have suffix : ∀ i, m.suffixAt f n i = true ↔ m.PathSuffixLine f n i := fun i => by
    simp [suffixAt_iff, never]
  have inside : ∀ i, m.PathSuffixLine f n i → i < m.lines.length := fun i ⟨l, h, _⟩ =>
    (List.getElem?_eq_some_iff.mp h).1
  have search : m.findByName? (f ++ ":" ++ t) = (List.range m.lines.length).find? (m.suffixAt f n) := by
    rw [findByName?_parts m f t noColon n number,
      List.find?_eq_none.mpr fun i _ => by simp [never]]
    rfl
  have unsuffix : ∀ i, (!m.suffixAt f n i) = true ↔ ¬ m.PathSuffixLine f n i := fun i => by
    rw [Bool.not_eq_true', ← Bool.not_eq_true, suffix]
  rw [search]
  refine ⟨fun id => ?_, ?_⟩
  · rw [List.find?_range_eq_some, suffix, List.mem_range]
    constructor
    · rintro ⟨found, -, first⟩
      exact ⟨found, fun j before => (unsuffix j).mp (first j before)⟩
    · rintro ⟨found, first⟩
      exact ⟨found, inside id found, fun j before => (unsuffix j).mpr (first j before)⟩
  · rw [List.find?_range_eq_none]
    exact ⟨fun none j hj => (unsuffix j).mp (none j (inside j hj)) hj,
      fun none i _ => (unsuffix i).mpr (none i)⟩

end Lookup

end SourceMap

/-- The name of a line, looked up in a built map, finds that line; so does any name of the
line's file and number, its number written with blanks around it. A name `f:t`, with `t` after
its last `:` reading as a number, finds the line of file `f` and that number when there is one;
else the first line, by id, of that number whose path ends with `/` and then `f`; else none. -/
theorem line_names_round_trip (b : SourceMapBuilder) (grown : b.Grown) :
    (∀ id l, b.build.line? id = some l → b.build.findByName? l.name = some id) ∧
    ∀ (f t : String) (n : Nat), ':' ∉ t.toList →
      Number.readNat? (Nat.pow 2 32 - 1) (Text.trimString t) = some n →
      (∀ id l, b.build.line? id = some l → l.file = f → l.line = n →
        b.build.findByName? (f ++ ":" ++ t) = some id) ∧
      ((∀ l ∈ b.build.lines, ¬ (l.file = f ∧ l.line = n)) →
        (∀ id, b.build.findByName? (f ++ ":" ++ t) = some id ↔
          b.build.PathSuffixLine f n id ∧ ∀ j < id, ¬ b.build.PathSuffixLine f n j) ∧
        (b.build.findByName? (f ++ ":" ++ t) = none ↔ ∀ j, ¬ b.build.PathSuffixLine f n j)) := by
  have keyed := grown.keyed
  refine ⟨fun id l h => ?_, fun f t n noColon number =>
    ⟨fun id l h file line => SourceMap.findByName?_exact keyed.distinct noColon number h file line,
      SourceMap.findByName?_of_no_exact noColon number⟩⟩
  -- a number is written in digits, and reads back as itself when it is a 32-bit word
  have noColon : ':' ∉ (toString l.line).toList := fun mem => by
    rw [Number.toString_toList] at mem
    have := Number.isDigit_of_mem_toDigits mem
    contradiction
  have fits : l.line ≤ Nat.pow 2 32 - 1 := by
    have := keyed.fits l (List.mem_of_getElem? h)
    omega
  have number : Number.readNat? (Nat.pow 2 32 - 1) (Text.trimString (toString l.line)) = some l.line := by
    rw [(Number.graphic_toString l.line).trimString]
    exact Number.readNat?_toString fits
  exact SourceMap.findByName?_exact keyed.distinct noColon number h rfl rfl

/-- Two lines numbered 10, in `/work/app/src/main.rs` and then `/srv/src/main.rs`: the name
`src/main.rs:10` finds the first, whose path ends in it, and the second line's own name finds
the second. -/
theorem main_rs_lines_by_name :
    let b := (SourceMapBuilder.empty.addWith 0x100 0x200 "/work/app/src/main.rs" 10 false).addWith
      0x200 0x300 "/srv/src/main.rs" 10 false
    b.Grown ∧ b.build.findByName? "src/main.rs:10" = some 0 ∧
      b.build.findByName? "/srv/src/main.rs:10" = some 1 := by
  intro b
  have grown : b.Grown := .addWith _ _ _ _ _ (.addWith _ _ _ _ _ .empty (by decide)) (by decide)
  have lines : b.build.lines =
      [⟨"/work/app/src/main.rs", 10, false⟩, ⟨"/srv/src/main.rs", 10, false⟩] := by decide
  obtain ⟨named, lookup⟩ := line_names_round_trip b grown
  refine ⟨grown, ?_, ?_⟩
  · have split : "src/main.rs:10" = "src/main.rs" ++ ":" ++ "10" := by decide
    have noExact : ∀ l ∈ b.build.lines, ¬ (l.file = "src/main.rs" ∧ l.line = 10) := by
      rw [lines]
      decide
    have first : b.build.PathSuffixLine "src/main.rs" 10 0 :=
      ⟨_, by rw [lines]; rfl, rfl, "/work/app", by decide⟩
    rw [split]
    exact (((lookup "src/main.rs" "10" 10 (by decide) (by decide)).2 noExact).1 0).mpr
      ⟨first, fun j before => absurd before (Nat.not_lt_zero j)⟩
  · have own : b.build.line? 1 = some ⟨"/srv/src/main.rs", 10, false⟩ := by
      rw [SourceMap.line?, lines]
      rfl
    have name : "/srv/src/main.rs:10" = (⟨"/srv/src/main.rs", 10, false⟩ : SourceLine).name := by
      decide
    rw [name]
    exact named 1 _ own

end CausalProfiler
