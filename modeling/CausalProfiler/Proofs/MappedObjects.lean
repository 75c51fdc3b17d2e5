import CausalProfiler.Maps
import CausalProfiler.Proofs.ProgressPoints
import Mathlib.Order.Bounds.Basic
import Mathlib.Order.Lattice.Nat
/-!
# Executable objects of a process map

`parseMaps` reads the objects mapped into a process one line of the maps text at a time, into a
table kept in ascending order of paths. A line names an object when it has six blank-separated
fields, an absolute path as the sixth and a hexadecimal start before the first `-` of the first
(`ObjectLine`). The object's entry becomes executable when the line's permissions hold `x`, and
its base falls to the line's start when the line maps the file from offset zero.

* `addMapLine_of_objectLine`, `addMapLine_of_no_object`: what one line does to the table;
* `Summarizes.step`, `summarizes_foldl`: after any lines, the table has an entry for each path
  some line names, executable when some line of the path is, and based at the least start of
  the path's lines at offset zero;
* `mem_parseMaps_iff`: an object is listed with a base exactly when some line of its path has
  `x` and the base is the least start of its lines at offset zero;
* `parseMaps_congr`: two texts with the same lines, in any order and number, list the same
  objects;
* `parseMaps_lists_executable_objects`: the objects ascend in the byte order of their paths,
  depend on the set of lines only, and are the ones `mem_parseMaps_iff` gives.
-/
namespace CausalProfiler

open Sorted

/-- A maps line that names the object at `path`: it has at least six blank-separated fields, the
sixth is `path` and starts with `/`, and the first holds a `-` with the hexadecimal word `start`
before its first one; `perms` and `offset` are the second and third fields. -/
def ObjectLine (line path : String) (start : Nat) (perms offset : String) : Prop :=
  ∃ range dev inode rest,
    Text.fieldsOf line = range :: perms :: offset :: dev :: inode :: path :: rest ∧
    path.startsWith "/" = true ∧ '-' ∈ range.toList ∧
    Number.readHex? Number.wordMax (String.ofList (range.toList.takeWhile (· ≠ '-'))) = some start

/-- An offset that reads as hexadecimal zero. -/
def AtZero (offset : String) : Prop := Number.readHex? Number.wordMax offset = some 0

/-- Some line names the object at `path`. -/
def Named (lines : List String) (path : String) : Prop :=
  ∃ l ∈ lines, ∃ start perms offset, ObjectLine l path start perms offset

/-- Some line of the object at `path` has `x` among its permissions. -/
def Executable (lines : List String) (path : String) : Prop :=
  ∃ l ∈ lines, ∃ start perms offset, ObjectLine l path start perms offset ∧ 'x' ∈ perms.toList

/-- The starts of the lines of the object at `path` that map it from file offset zero. -/
def zeroStarts (lines : List String) (path : String) : Set Nat :=
  {start | ∃ l ∈ lines, ∃ perms offset, ObjectLine l path start perms offset ∧ AtZero offset}

/-- What one line of an object adds to the object's entry. -/
def MapEntry.absorb (start : Nat) (perms offset : String) (e : MapEntry) : MapEntry :=
  { executable := e.executable || perms.toList.contains 'x'
    base := if Number.readHex? Number.wordMax offset == some 0 then
        some (match e.base with | some b => min b start | none => start)
      else e.base }

/-! ## One line -/

section Line

variable {line path path' : String} {start start' : Nat} {perms perms' offset offset' : String}

/-- A line names at most one object, with one start, permissions and offset. -/
theorem ObjectLine.unique (h : ObjectLine line path start perms offset)
    (h' : ObjectLine line path' start' perms' offset') :
    path' = path ∧ start' = start ∧ perms' = perms ∧ offset' = offset := by
  obtain ⟨range, dev, inode, rest, fields, -, -, hex⟩ := h
  obtain ⟨range', dev', inode', rest', fields', -, -, hex'⟩ := h'
  rw [fields] at fields'
  simp only [List.cons.injEq] at fields'
  obtain ⟨rfl, rfl, rfl, -, -, rfl, -⟩ := fields'
  rw [hex] at hex'
  exact ⟨rfl, (Option.some.inj hex').symm, rfl, rfl⟩

/-- A line that names an object changes that object's entry, creating it when new. -/
theorem addMapLine_of_objectLine (h : ObjectLine line path start perms offset)
    (objects : List (String × MapEntry)) :
    addMapLine objects line =
      alter path ⟨false, none⟩ (MapEntry.absorb start perms offset) objects := by
  obtain ⟨range, dev, inode, rest, fields, absolute, dash, hex⟩ := h
  have dash' : range.toList.contains '-' = true := List.contains_iff_mem.mpr dash
  unfold addMapLine
  rw [fields]
  simp only [absolute, Bool.not_true, Bool.false_eq_true, if_false, dash', if_true, hex]
  rfl

/-- A line that names no object leaves the table as it is. -/
theorem addMapLine_of_no_object (h : ∀ path start perms offset, ¬ ObjectLine line path start perms offset)
    (objects : List (String × MapEntry)) : addMapLine objects line = objects := by
  unfold addMapLine
  split
  · rename_i range perms offset dev inode path rest fields
    split
    · rfl
    · rename_i absolute
      split
      · rename_i dash
        dsimp only
        split
        · rfl
        · -- the line would name the object at `path`
          rename_i start found
          refine absurd ⟨range, dev, inode, rest, fields, ?_, List.contains_iff_mem.mp dash, found⟩
            (h path start perms offset)
          simpa using absolute
      · rfl
  · rfl

end Line

/-! ## What the lines say of a path -/

section Lines

variable {lines lines' : List String} {l path q : String} {s : Nat} {pe o : String}

theorem named_of_executable (h : Executable lines path) : Named lines path := by
  obtain ⟨l, mem, start, perms, offset, hl, -⟩ := h
  exact ⟨l, mem, start, perms, offset, hl⟩

theorem named_of_mem_zeroStarts (h : s ∈ zeroStarts lines path) : Named lines path := by
  obtain ⟨l, mem, perms, offset, hl, -⟩ := h
  exact ⟨l, mem, s, perms, offset, hl⟩

/-- A last line that does not say a thing leaves whether some line says it. -/
theorem exists_mem_append_of_not {P : String → Prop} (h : ¬ P l) :
    (∃ x ∈ lines ++ [l], P x) ↔ ∃ x ∈ lines, P x := by
  simp only [List.mem_append, List.mem_singleton, or_and_right, exists_or, exists_eq_left]
  exact or_iff_left h

/-- A line that names no object at `path` changes nothing the lines say of `path`. -/
theorem Named.append_of_other (other : ∀ s pe o, ¬ ObjectLine l path s pe o) :
    Named (lines ++ [l]) path ↔ Named lines path :=
  exists_mem_append_of_not fun ⟨s, pe, o, hl⟩ => other s pe o hl

theorem Executable.append_of_other (other : ∀ s pe o, ¬ ObjectLine l path s pe o) :
    Executable (lines ++ [l]) path ↔ Executable lines path :=
  exists_mem_append_of_not fun ⟨s, pe, o, hl, _⟩ => other s pe o hl

theorem zeroStarts_append_of_other (other : ∀ s pe o, ¬ ObjectLine l path s pe o) :
    zeroStarts (lines ++ [l]) path = zeroStarts lines path := by
  ext start
  exact exists_mem_append_of_not fun ⟨pe, o, hl, _⟩ => other start pe o hl

/-- A line of the object at `path` makes it executable exactly when its permissions hold `x`. -/
theorem Executable.append_of_objectLine (hl : ObjectLine l path s pe o) :
    Executable (lines ++ [l]) path ↔ Executable lines path ∨ 'x' ∈ pe.toList := by
  simp only [Executable, List.mem_append, List.mem_singleton, or_and_right, exists_or]
  constructor
  · rintro (h | ⟨_, rfl, s', pe', o', hl', x⟩)
    · exact .inl h
    · obtain ⟨-, -, rfl, -⟩ := hl.unique hl'
      exact .inr x
  · rintro (h | x)
    · exact .inl h
    · exact .inr ⟨l, rfl, s, pe, o, hl, x⟩

/-- A line of the object at `path` adds its start to the zero-offset starts when its offset is
zero. -/
theorem zeroStarts_append_of_objectLine (hl : ObjectLine l path s pe o) :
    zeroStarts (lines ++ [l]) path = zeroStarts lines path ∪ {start | start = s ∧ AtZero o} := by
  ext start
  simp only [zeroStarts, Set.mem_ofPred_eq, Set.mem_union, List.mem_append, List.mem_singleton,
    or_and_right, exists_or]
  constructor
  · rintro (h | ⟨_, rfl, pe', o', hl', zero⟩)
    · exact .inl h
    · obtain ⟨-, rfl, -, rfl⟩ := hl.unique hl'
      exact .inr ⟨rfl, zero⟩
  · rintro (h | ⟨rfl, zero⟩)
    · exact .inl h
    · exact .inr ⟨l, rfl, pe, o, hl, zero⟩

/-- What the lines say of a path depends on the set of lines only. -/
theorem executable_congr (same : ∀ l, l ∈ lines ↔ l ∈ lines') :
    Executable lines path ↔ Executable lines' path := by
  simp only [Executable, same]

theorem zeroStarts_congr (same : ∀ l, l ∈ lines ↔ l ∈ lines') :
    zeroStarts lines path = zeroStarts lines' path := by
  ext start
  simp only [zeroStarts, Set.mem_ofPred_eq, same]

end Lines

/-! ## Least starts -/

/-- A set of naturals with no least element is empty. -/
theorem eq_empty_of_no_least {Z : Set Nat} (h : ∀ b, ¬ IsLeast Z b) : Z = ∅ := by
  by_contra ne
  have nonempty := Set.nonempty_iff_ne_empty.mpr ne
  exact h (sInf Z) ⟨Nat.sInf_mem nonempty, fun x hx => Nat.sInf_le hx⟩

/-- One more start joins a set whose least element is `a`: the least is then the smaller of `a`
and the start. -/
theorem isLeast_union_singleton_iff {Z : Set Nat} {a : Nat} (least : IsLeast Z a) (s b : Nat) :
    min a s = b ↔ IsLeast (Z ∪ {s}) b := by
  have joined : IsLeast (Z ∪ {s}) (min a s) := least.union isLeast_singleton
  exact ⟨fun h => h ▸ joined, fun h => joined.unique h⟩

/-- One more start joins a set with no least element: it is then the least. -/
theorem isLeast_union_singleton_of_none {Z : Set Nat} (none : ∀ b, ¬ IsLeast Z b) (s b : Nat) :
    s = b ↔ IsLeast (Z ∪ {s}) b := by
  rw [eq_empty_of_no_least none, Set.empty_union]
  exact ⟨fun h => h ▸ isLeast_singleton, fun h => isLeast_singleton.unique h⟩

/-! ## The table -/

/-- A table that sums up lines: it ascends by path and has an entry exactly for each path the
lines name, executable exactly when some line of the path has `x`, with a base exactly when
some line of the path maps it from offset zero, and then the least start of those lines. -/
structure Summarizes (lines : List String) (t : List (String × MapEntry)) : Prop where
  ascending : Ascending t
  named : ∀ path, (find? path t).isSome ↔ Named lines path
  executable : ∀ path e, find? path t = some e → (e.executable = true ↔ Executable lines path)
  base : ∀ path e b, find? path t = some e → (e.base = some b ↔ IsLeast (zeroStarts lines path) b)

namespace Summarizes

variable {lines : List String} {t : List (String × MapEntry)}

theorem nil : Summarizes [] [] :=
  ⟨ascending_nil, by simp [find?, Named], fun _ _ found => (by cases found),
    fun _ _ _ found => (by cases found)⟩

/-- The entry of a path, or the empty entry that a new path starts from. -/
theorem executable_getD (h : Summarizes lines t) (path : String) :
    ((find? path t).getD ⟨false, none⟩).executable = true ↔ Executable lines path := by
  cases found : find? path t with
  | some e => exact h.executable path e found
  | none =>
    have unnamed : ¬ Named lines path := by rw [← h.named, found]; decide
    exact ⟨fun no => (by cases no), fun exec => absurd (named_of_executable exec) unnamed⟩

theorem base_getD (h : Summarizes lines t) (path : String) (b : Nat) :
    ((find? path t).getD ⟨false, none⟩).base = some b ↔ IsLeast (zeroStarts lines path) b := by
  cases found : find? path t with
  | some e => exact h.base path e b found
  | none =>
    have unnamed : ¬ Named lines path := by rw [← h.named, found]; decide
    exact ⟨fun no => (by cases no), fun least => absurd (named_of_mem_zeroStarts least.1) unnamed⟩

/-- A line that names no object keeps the table summing up the lines. -/
theorem skip (h : Summarizes lines t) {l : String}
    (none : ∀ path start perms offset, ¬ ObjectLine l path start perms offset) :
    Summarizes (lines ++ [l]) t := by
  refine ⟨h.ascending, fun path => ?_, fun path e found => ?_, fun path e b found => ?_⟩
  · rw [Named.append_of_other (none path)]
    exact h.named path
  · rw [Executable.append_of_other (none path)]
    exact h.executable path e found
  · rw [zeroStarts_append_of_other (none path)]
    exact h.base path e b found

/-- The entry of the object at `q`, once it absorbs a line of the object, is executable exactly
when that line or an earlier one of the object has `x`. -/
theorem executable_absorb (h : Summarizes lines t) {l q : String} {s : Nat} {pe o : String}
    (hl : ObjectLine l q s pe o) :
    (MapEntry.absorb s pe o ((find? q t).getD ⟨false, none⟩)).executable = true ↔
      Executable (lines ++ [l]) q := by
  rw [Executable.append_of_objectLine hl, ← h.executable_getD q]
  simp only [MapEntry.absorb, Bool.or_eq_true, List.contains_iff_mem]

/-- The entry of the object at `q`, once it absorbs a line of the object, is based at the least
zero-offset start of the object's lines, that line included. -/
theorem base_absorb (h : Summarizes lines t) {l q : String} {s : Nat} {pe o : String}
    (hl : ObjectLine l q s pe o) (b : Nat) :
    (MapEntry.absorb s pe o ((find? q t).getD ⟨false, none⟩)).base = some b ↔
      IsLeast (zeroStarts (lines ++ [l]) q) b := by
  rw [zeroStarts_append_of_objectLine hl]
  by_cases zero : AtZero o
  · -- the line's start joins the zero-offset starts
    have joined : {start | start = s ∧ AtZero o} = {s} := by
      ext start
      simp [zero]
    have atZero : (Number.readHex? Number.wordMax o == some 0) = true := by
      rw [zero]
      rfl
    simp only [MapEntry.absorb, atZero, if_true, Option.some.injEq, joined]
    -- the entry's old base is the least old start, or there is none
    have old := h.base_getD q
    generalize ((find? q t).getD ⟨false, none⟩).base = m at old ⊢
    cases m with
    | some a => exact isLeast_union_singleton_iff ((old a).mp rfl) s b
    | none =>
      exact isLeast_union_singleton_of_none (fun b least => by simpa using (old b).mpr least) s b
  · -- the line adds no zero-offset start
    have none : {start | start = s ∧ AtZero o} = ∅ := by
      ext start
      simp [zero]
    have notZero : (Number.readHex? Number.wordMax o == some 0) = false := by
      rw [beq_eq_false_iff_ne]
      exact zero
    simp only [MapEntry.absorb, notZero, Bool.false_eq_true, if_false, none, Set.union_empty]
    exact h.base_getD q b

/-- A line of the object at `q` keeps the table summing up the lines once the object's entry
absorbs it. -/
theorem absorb (h : Summarizes lines t) {l q : String} {s : Nat} {pe o : String}
    (hl : ObjectLine l q s pe o) :
    Summarizes (lines ++ [l]) (alter q ⟨false, none⟩ (MapEntry.absorb s pe o) t) := by
  -- at any other path the line says nothing
  have other : ∀ path, q ≠ path → ∀ s' pe' o', ¬ ObjectLine l path s' pe' o' :=
    fun path ne s' pe' o' hl' => ne (hl.unique hl').1.symm
  refine ⟨h.ascending.alter, fun path => ?_, fun path e found => ?_, fun path e b found => ?_⟩
  · rw [find?_alter h.ascending]
    by_cases same : q = path
    · subst same
      simp only [if_true, Option.isSome_some, true_iff]
      exact ⟨l, List.mem_append_right _ (List.mem_singleton_self l), s, pe, o, hl⟩
    · rw [if_neg same, Named.append_of_other (other path same)]
      exact h.named path
  · rw [find?_alter h.ascending] at found
    by_cases same : q = path
    · subst same
      rw [if_pos rfl] at found
      cases found
      exact h.executable_absorb hl
    · rw [if_neg same] at found
      rw [Executable.append_of_other (other path same)]
      exact h.executable path e found
  · rw [find?_alter h.ascending] at found
    by_cases same : q = path
    · subst same
      rw [if_pos rfl] at found
      cases found
      exact h.base_absorb hl b
    · rw [if_neg same] at found
      rw [zeroStarts_append_of_other (other path same)]
      exact h.base path e b found

/-- **One line keeps the table summing up the lines read.** -/
theorem step (h : Summarizes lines t) (l : String) : Summarizes (lines ++ [l]) (addMapLine t l) := by
  by_cases names : ∃ q s pe o, ObjectLine l q s pe o
  · obtain ⟨q, s, pe, o, hl⟩ := names
    rw [addMapLine_of_objectLine hl]
    exact h.absorb hl
  · have none : ∀ q s pe o, ¬ ObjectLine l q s pe o := fun q s pe o hl => names ⟨q, s, pe, o, hl⟩
    rw [addMapLine_of_no_object none]
    exact h.skip none

end Summarizes

/-- The table read from any lines sums them up. -/
theorem summarizes_foldl (lines : List String) : Summarizes lines (lines.foldl addMapLine []) := by
  induction lines using List.reverseRecOn with
  | nil => exact Summarizes.nil
  | append_singleton lines l ih =>
    rw [List.foldl_append, List.foldl_cons, List.foldl_nil]
    exact ih.step l

/-! ## The listed objects -/

/-- In an ascending table, a lookup finds an entry of the table. -/
theorem mem_of_find? {β : Type} {t : List (String × β)} (asc : Ascending t) {k : String} {v : β}
    (found : find? k t = some v) : (k, v) ∈ t := by
  have key : k ∈ t.map Prod.fst := isSome_find?_iff.mp (by rw [found]; rfl)
  obtain ⟨⟨k', v'⟩, mem, rfl⟩ := List.mem_map.mp key
  rw [find?_of_mem asc mem] at found
  cases found
  exact mem

/-- **The listed objects.** An object is listed with a base exactly when some line of its path
has `x` among its permissions, and the base is the least start of the lines of its path at file
offset zero. -/
theorem mem_parseMaps_iff (text path : String) (base : Nat) :
    ⟨path, base⟩ ∈ parseMaps text ↔
      Executable (Text.linesOf text) path ∧ IsLeast (zeroStarts (Text.linesOf text) path) base := by
  have sum := summarizes_foldl (Text.linesOf text)
  unfold parseMaps
  rw [List.mem_filterMap]
  constructor
  · rintro ⟨⟨p, e⟩, mem, finish⟩
    cases exec : e.executable with
    | false => simp [exec] at finish
    | true =>
      cases hb : e.base with
      | none => simp [exec, hb] at finish
      | some b =>
        simp only [exec, hb, if_true, Option.map_some, Option.some.injEq, MappedObject.mk.injEq]
          at finish
        obtain ⟨rfl, rfl⟩ := finish
        have found := find?_of_mem sum.ascending mem
        exact ⟨(sum.executable p e found).mp exec, (sum.base p e b found).mp hb⟩
  · rintro ⟨exec, least⟩
    obtain ⟨e, found⟩ := Option.isSome_iff_exists.mp ((sum.named path).mpr (named_of_executable exec))
    have exec' := (sum.executable path e found).mpr exec
    have base' := (sum.base path e base found).mpr least
    exact ⟨(path, e), mem_of_find? sum.ascending found, by simp [exec', base']⟩

/-- The objects ascend in the byte order of their paths, so each path is listed once. -/
theorem parseMaps_ascending (text : String) :
    (parseMaps text).Pairwise fun a b => a.path.toUTF8.toList < b.path.toUTF8.toList := by
  have asc := (summarizes_foldl (Text.linesOf text)).ascending
  unfold parseMaps
  refine asc.filterMap _ fun a a' lt o finish o' finish' => ?_
  -- a listed object keeps the path of its entry
  have keeps : ∀ (entry : String × MapEntry) (obj : MappedObject),
      (if entry.2.executable then entry.2.base.map (⟨entry.1, ·⟩) else none) = some obj →
        obj.path = entry.1 := by
    rintro ⟨p, e⟩ obj listed
    split at listed
    · obtain ⟨b, -, rfl⟩ := Option.map_eq_some_iff.mp listed
      rfl
    · cases listed
  rw [keeps a o finish, keeps a' o' finish']
  exact Text.compare_eq_lt_iff_bytes.mp lt

/-- Two lists ascending by path bytes with the same members are the same list. -/
theorem eq_of_ascending_of_mem_iff {xs ys : List MappedObject}
    (hx : xs.Pairwise fun a b => a.path.toUTF8.toList < b.path.toUTF8.toList)
    (hy : ys.Pairwise fun a b => a.path.toUTF8.toList < b.path.toUTF8.toList)
    (same : ∀ obj, obj ∈ xs ↔ obj ∈ ys) : xs = ys := by
  have nodup : ∀ {zs : List MappedObject},
      (zs.Pairwise fun a b => a.path.toUTF8.toList < b.path.toUTF8.toList) → zs.Nodup :=
    fun h => by
      show List.Pairwise (· ≠ ·) _
      refine h.imp fun {a b} lt same => ?_
      rw [same] at lt
      exact List.lt_irrefl _ lt
  have perm := (List.perm_ext_iff_of_nodup (nodup hx) (nodup hy)).mpr same
  exact perm.eq_of_pairwise (fun _ _ _ _ ab ba => absurd ba (List.lt_asymm ab)) hx hy

/-- Two texts whose lines are the same, in any order and number, list the same objects. -/
theorem parseMaps_congr {text text' : String}
    (same : ∀ l, l ∈ Text.linesOf text' ↔ l ∈ Text.linesOf text) :
    parseMaps text' = parseMaps text := by
  refine eq_of_ascending_of_mem_iff (parseMaps_ascending text') (parseMaps_ascending text) ?_
  rintro ⟨path, base⟩
  rw [mem_parseMaps_iff, mem_parseMaps_iff, executable_congr same, zeroStarts_congr same]

/-- **The objects of a maps text depend only on its set of lines.** The objects listed ascend
strictly in the byte order of their paths; any text with the same lines, whatever their order
and repetitions, lists the same objects; and an object is listed with a base exactly when,
among the lines that have six fields, an absolute path as the sixth and a hexadecimal start
before a `-` in the first, some line of its path has `x` among its permissions and some line
of its path maps it from an offset reading as hexadecimal zero, the least start of those being
its base. -/
theorem parseMaps_lists_executable_objects (text : String) :
    (parseMaps text).Pairwise (fun a b => a.path.toUTF8.toList < b.path.toUTF8.toList) ∧
    (∀ text', (∀ l, l ∈ Text.linesOf text' ↔ l ∈ Text.linesOf text) →
      parseMaps text' = parseMaps text) ∧
    ∀ path base, ⟨path, base⟩ ∈ parseMaps text ↔
      Executable (Text.linesOf text) path ∧ IsLeast (zeroStarts (Text.linesOf text) path) base :=
  ⟨parseMaps_ascending text, fun _ same => parseMaps_congr same, mem_parseMaps_iff text⟩

end CausalProfiler
