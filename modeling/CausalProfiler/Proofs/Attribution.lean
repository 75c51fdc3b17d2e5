import CausalProfiler.SourceMap
import Mathlib.Data.List.Induction
/-!
# Address attribution

An address belongs to the line of one of the ranges added for it: of the added ranges that hold
it, the one with the smallest start, then the smallest end, then the one added first
(`SourceMapBuilder.owner?`). Building a map sorts the ranges stably, cuts each at the end of the
last one kept and searches the cut ranges by their starts; this module shows that the search
finds exactly that range's line.

* `find?_sorted_eq_owner?`: in the stably sorted ranges, the first range holding an address is
  the owner, because the ranges tied with the owner keep their order (`filter_mergeSort_of_tied`);
* `Clipped.snoc`: cutting a start-sorted list keeps the cut ranges disjoint and in order, and
  the first cut range holding an address has the line of the first range that held it;
* `findLine?_of_chained`: on disjoint ranges in order, the search by start finds the one range
  holding the address;
* `attribution_follows_first_range`: looking an address up in a built map gives the owner's
  line, and a sample resolves to the first line outside the profiler among its address and its
  return addresses, each taken one byte back.
-/
namespace CausalProfiler

namespace AddressRange

/-- Whether the range holds an address. -/
def holds (r : AddressRange) (addr : Nat) : Bool := r.start ≤ addr && addr < r.stop

/-- The order ranges are sorted in when a map is built: by start, then by end. -/
def sortsBefore (x y : AddressRange) : Bool :=
  decide (x.start < y.start ∨ (x.start = y.start ∧ x.stop ≤ y.stop))

theorem sortsBefore_refl (x : AddressRange) : x.sortsBefore x := by
  simp [sortsBefore]

theorem sortsBefore_trans (x y z : AddressRange) (xy : x.sortsBefore y) (yz : y.sortsBefore z) :
    x.sortsBefore z := by
  simp only [sortsBefore, decide_eq_true_eq] at xy yz ⊢
  omega

theorem sortsBefore_total (x y : AddressRange) : (x.sortsBefore y || y.sortsBefore x) = true := by
  simp only [sortsBefore, Bool.or_eq_true, decide_eq_true_eq]
  omega

theorem start_le_of_sortsBefore {x y : AddressRange} (h : x.sortsBefore y) : x.start ≤ y.start := by
  simp only [sortsBefore, decide_eq_true_eq] at h
  omega

/-- A range cut to start no earlier than the end of the range kept before it. -/
def after (r : AddressRange) : Option AddressRange → AddressRange
  | some prev => if r.start < prev.stop then { r with start := prev.stop } else r
  | none => r

end AddressRange

/-- The range an address belongs to: of the added ranges that hold it, the first added of those
that sort before every range holding it, by start and then by end. -/
def SourceMapBuilder.owner? (b : SourceMapBuilder) (addr : Nat) : Option AddressRange :=
  b.ranges.find? fun r => r.holds addr && b.ranges.all fun y => !y.holds addr || r.sortsBefore y

/-! ## Stable sorting -/

section Sorting

variable {α : Type} {le : α → α → Bool}

/-- A stable sort keeps the order of elements tied with each other: filtering the sorted list by
a property that holds only of mutually tied elements gives the original list filtered by it. -/
theorem filter_mergeSort_of_tied (trans : ∀ a b c, le a b → le b c → le a c)
    (total : ∀ a b, (le a b || le b a) = true) (p : α → Bool)
    (l : List α) (tied : ∀ x ∈ l, ∀ y ∈ l, p x = true → p y = true → le x y = true) :
    (l.mergeSort le).filter p = l.filter p := by
  have sorted : (l.filter p).Pairwise (fun x y => le x y = true) :=
    List.pairwise_of_forall_mem_list fun x hx y hy =>
      tied x (List.mem_filter.mp hx).1 y (List.mem_filter.mp hy).1 (List.mem_filter.mp hx).2
        (List.mem_filter.mp hy).2
  have kept : List.Sublist (l.filter p) ((l.mergeSort le).filter p) := by
    have := (List.sublist_mergeSort trans total sorted List.filter_sublist).filter p
    rwa [List.filter_filter, List.filter_congr (fun x _ => Bool.and_self (p x))] at this
  have same : ((l.mergeSort le).filter p).length = (l.filter p).length :=
    ((List.mergeSort_perm l le).filter p).length_eq
  exact (kept.eq_of_length same.symm).symm

end Sorting

section Owner

open AddressRange

/-- In ranges sorted by start and end that include every added range holding the address, the
first range holding it sorts before every added range holding it. -/
theorem find?_sorted {S l : List AddressRange} (sorted : S.Pairwise fun x y => x.sortsBefore y)
    {addr : Nat} (covers : ∀ y ∈ l, y.holds addr = true → y ∈ S) :
    S.find? (·.holds addr) =
      S.find? fun r => r.holds addr && l.all fun y => !y.holds addr || r.sortsBefore y := by
  induction S with
  | nil => rfl
  | cons x S ih =>
    obtain ⟨first, rest⟩ := List.pairwise_cons.mp sorted
    cases hx : x.holds addr with
    | true =>
      have least : (l.all fun y => !y.holds addr || x.sortsBefore y) = true := by
        refine List.all_eq_true.mpr fun y hy => ?_
        cases hy' : y.holds addr with
        | false => rfl
        | true =>
          rcases List.mem_cons.mp (covers y hy hy') with rfl | later
          · simp [sortsBefore_refl]
          · simp [first y later]
      simp [hx, least]
    | false =>
      have covers' : ∀ y ∈ l, y.holds addr = true → y ∈ S := fun y hy hy' =>
        (List.mem_cons.mp (covers y hy hy')).resolve_left fun same => by
          rw [same, hx] at hy'
          cases hy'
      simp [hx, ih rest covers']

/-- The first range of the stably sorted ranges that holds an address is its owner. -/
theorem find?_sorted_eq_owner? (b : SourceMapBuilder) (addr : Nat) :
    (b.ranges.mergeSort sortsBefore).find? (·.holds addr) = b.owner? addr := by
  -- the owners are the ranges holding the address that sort before all others holding it
  let least := fun r : AddressRange =>
    r.holds addr && b.ranges.all fun y => !y.holds addr || r.sortsBefore y
  have tied : ∀ x ∈ b.ranges, ∀ y ∈ b.ranges, least x = true → least y = true →
      x.sortsBefore y = true := by
    intro x _ y hy lx ly
    simp only [least, Bool.and_eq_true, List.all_eq_true, Bool.or_eq_true, Bool.not_eq_true'] at lx ly
    exact (lx.2 y hy).resolve_left (by rw [ly.1]; decide)
  have sorted := List.pairwise_mergeSort sortsBefore_trans sortsBefore_total b.ranges
  calc (b.ranges.mergeSort sortsBefore).find? (·.holds addr)
      = (b.ranges.mergeSort sortsBefore).find? least :=
        find?_sorted sorted fun y hy _ => List.mem_mergeSort.mpr hy
    _ = ((b.ranges.mergeSort sortsBefore).filter least).head? := List.head?_filter.symm
    _ = (b.ranges.filter least).head? := by
        rw [filter_mergeSort_of_tied sortsBefore_trans sortsBefore_total least b.ranges tied]
    _ = b.owner? addr := List.head?_filter

end Owner

/-! ## Cutting the sorted ranges -/

section Clipping

open AddressRange

/-- Where the cut ranges end: the end of the last one, or zero before any. -/
def reach (C : List AddressRange) : Nat := (C.getLast?.map (·.stop)).getD 0

theorem reach_append_singleton (C : List AddressRange) (r : AddressRange) :
    reach (C ++ [r]) = r.stop := by
  simp [reach]

/-- A range cut after the last kept one starts at the later of its start and their reach, and
keeps its end and line. -/
theorem after_getLast? (r : AddressRange) (C : List AddressRange) :
    (r.after C.getLast?).start = max r.start (reach C) ∧ (r.after C.getLast?).stop = r.stop ∧
      (r.after C.getLast?).line = r.line := by
  cases h : C.getLast? with
  | none => simp [after, reach, h]
  | some prev =>
    simp only [after, reach, h, Option.map_some, Option.getD_some]
    split <;> simp <;> omega

/-- Cutting one more range: it is cut at the end of the last range kept, and kept if anything is
left of it. -/
theorem clipRanges_snoc (S : List AddressRange) (r : AddressRange) :
    clipRanges (S ++ [r]) =
      if (r.after (clipRanges S).getLast?).start < (r.after (clipRanges S).getLast?).stop then
        clipRanges S ++ [r.after (clipRanges S).getLast?]
      else clipRanges S := by
  unfold clipRanges
  rw [List.foldl_append, List.foldl_cons, List.foldl_nil, List.getLast?_reverse]
  generalize S.foldl _ [] = kept
  change (if (r.after kept.head?).start < (r.after kept.head?).stop then
    r.after kept.head? :: kept else kept).reverse = _
  split <;> simp

/-- What cutting a start-sorted list `S` into `C` keeps: the cut ranges are non-empty, disjoint
and in order, and end by the reach of `C`; every address a range of `S` holds is below that
reach, and every address below it and past every start of `S` is held by a range of `S`; and
the first cut range holding an address has the line of the first range of `S` holding it. -/
structure Clipped (S C : List AddressRange) : Prop where
  chained : C.Pairwise fun x y => x.stop ≤ y.start
  nonempty : ∀ c ∈ C, c.start < c.stop
  capped : ∀ c ∈ C, c.stop ≤ reach C
  below : ∀ y ∈ S, ∀ a, y.holds a = true → a < reach C
  covered : ∀ a, a < reach C → (∀ y ∈ S, y.start ≤ a) → ∃ y ∈ S, y.holds a = true
  first : ∀ a, (C.find? (·.holds a)).map (·.line) = (S.find? (·.holds a)).map (·.line)

theorem clipped_nil : Clipped [] [] :=
  ⟨.nil, by simp, by simp, by simp, by simp [reach], by simp⟩

namespace Clipped

variable {S C : List AddressRange} {r : AddressRange}

/-- An address that a later range holds and no range of `S` holds lies at or past the reach:
below it, some range of `S` would hold it. -/
theorem reach_le (h : Clipped S C) (later : ∀ y ∈ S, y.start ≤ r.start) {a : Nat}
    (held : r.holds a = true) (fresh : S.find? (·.holds a) = none) : reach C ≤ a := by
  have inside : r.start ≤ a := by
    simp only [holds, Bool.and_eq_true, decide_eq_true_eq] at held
    exact held.1
  refine Nat.le_of_not_gt fun lt => ?_
  obtain ⟨y, hy, hya⟩ := h.covered a lt fun y hy => Nat.le_trans (later y hy) inside
  exact absurd hya (by simpa using List.find?_eq_none.mp fresh y hy)

/-- The cut range holds exactly the addresses that the range held and no range before it held. -/
theorem holds_after (h : Clipped S C) (later : ∀ y ∈ S, y.start ≤ r.start) {a : Nat}
    (fresh : S.find? (·.holds a) = none) : (r.after C.getLast?).holds a = r.holds a := by
  obtain ⟨start, stop, -⟩ := after_getLast? r C
  cases held : r.holds a with
  | true =>
    have := h.reach_le later held fresh
    simp only [holds, Bool.and_eq_true, decide_eq_true_eq] at held ⊢
    omega
  | false =>
    simp only [holds, Bool.and_eq_false_iff, decide_eq_false_iff_not] at held ⊢
    omega

/-- A range left empty by the cut is dropped: everything it holds was below the reach. -/
theorem drop (h : Clipped S C) (later : ∀ y ∈ S, y.start ≤ r.start)
    (empty : ¬ (r.after C.getLast?).start < (r.after C.getLast?).stop) : Clipped (S ++ [r]) C := by
  obtain ⟨start, stop, -⟩ := after_getLast? r C
  rw [start, stop] at empty
  -- what the dropped range holds lies below the reach
  have under : ∀ a, r.holds a = true → a < reach C := by
    intro a held
    simp only [holds, Bool.and_eq_true, decide_eq_true_eq] at held
    omega
  refine ⟨h.chained, h.nonempty, h.capped, ?_, ?_, ?_⟩
  · intro y hy a held
    rcases List.mem_append.mp hy with old | new
    · exact h.below y old a held
    · rw [List.mem_singleton.mp new] at held
      exact under a held
  · intro a lt starts
    obtain ⟨y, hy, hya⟩ := h.covered a lt fun y hy => starts y (List.mem_append_left _ hy)
    exact ⟨y, List.mem_append_left _ hy, hya⟩
  · intro a
    rw [List.find?_append, h.first a]
    cases fresh : S.find? (·.holds a) with
    | some y => rfl
    | none =>
      cases held : r.holds a with
      | false => simp [held]
      | true => exact absurd (h.reach_le later held fresh) (Nat.not_le.mpr (under a held))

/-- A range with something left after the cut is kept, from the reach on. -/
theorem keep (h : Clipped S C) (later : ∀ y ∈ S, y.start ≤ r.start)
    (kept : (r.after C.getLast?).start < (r.after C.getLast?).stop) :
    Clipped (S ++ [r]) (C ++ [r.after C.getLast?]) := by
  obtain ⟨start, stop, line⟩ := after_getLast? r C
  have past : reach C < r.stop := by omega
  have reached : reach (C ++ [r.after C.getLast?]) = r.stop := by rw [reach_append_singleton, stop]
  refine ⟨?_, ?_, ?_, ?_, ?_, ?_⟩
  · refine List.pairwise_append.mpr ⟨h.chained, List.pairwise_singleton _ _, ?_⟩
    intro c hc r' hr'
    rw [List.mem_singleton.mp hr', start]
    exact Nat.le_trans (h.capped c hc) (Nat.le_max_right _ _)
  · intro c hc
    rcases List.mem_append.mp hc with old | new
    · exact h.nonempty c old
    · rw [List.mem_singleton.mp new]
      exact kept
  · intro c hc
    rw [reached]
    rcases List.mem_append.mp hc with old | new
    · exact Nat.le_of_lt (Nat.lt_of_le_of_lt (h.capped c old) past)
    · rw [List.mem_singleton.mp new]
      exact Nat.le_of_eq stop
  · intro y hy a held
    rw [reached]
    rcases List.mem_append.mp hy with old | new
    · exact Nat.lt_trans (h.below y old a held) past
    · rw [List.mem_singleton.mp new] at held
      simp only [holds, Bool.and_eq_true, decide_eq_true_eq] at held
      exact held.2
  · intro a lt starts
    rw [reached] at lt
    by_cases low : a < reach C
    · obtain ⟨y, hy, hya⟩ := h.covered a low fun y hy => starts y (List.mem_append_left _ hy)
      exact ⟨y, List.mem_append_left _ hy, hya⟩
    · refine ⟨r, List.mem_append_right _ (List.mem_singleton_self r), ?_⟩
      have := starts r (List.mem_append_right _ (List.mem_singleton_self r))
      simp only [holds, Bool.and_eq_true, decide_eq_true_eq]
      omega
  · intro a
    rw [List.find?_append, List.find?_append]
    cases fresh : S.find? (·.holds a) with
    | some y =>
      have found := h.first a
      rw [fresh] at found
      obtain ⟨c, hc, -⟩ := Option.map_eq_some_iff.mp found
      rw [hc, Option.some_or, Option.some_or]
      rw [hc] at found
      exact found
    | none =>
      have found := h.first a
      rw [fresh, Option.map_none, Option.map_eq_none_iff] at found
      rw [found]
      cases held : r.holds a <;> simp [h.holds_after later fresh, held, line]

end Clipped

/-- Cutting a start-sorted list keeps what `Clipped` says. -/
theorem clipped_of_sorted (S : List AddressRange) (sorted : S.Pairwise fun x y => x.start ≤ y.start) :
    Clipped S (clipRanges S) := by
  induction S using List.reverseRecOn with
  | nil => exact clipped_nil
  | append_singleton S r ih =>
    obtain ⟨front, -, later⟩ := List.pairwise_append.mp sorted
    have later' : ∀ y ∈ S, y.start ≤ r.start := fun y hy => later y hy r (List.mem_singleton_self r)
    rw [clipRanges_snoc]
    split
    · exact (ih front).keep later' ‹_›
    · exact (ih front).drop later' ‹_›

end Clipping

/-! ## Searching the cut ranges -/

section Search

open AddressRange

theorem takeWhile_eq_nil_of_forall {l : List AddressRange} {p : AddressRange → Bool}
    (fails : ∀ x ∈ l, p x = false) : l.takeWhile p = [] := by
  cases l with
  | nil => rfl
  | cons x l => simp [fails x List.mem_cons_self]

/-- On disjoint non-empty ranges in order, the last range starting at or before an address
holds it if any range does: the search by start finds the one range holding the address. -/
theorem findLine?_of_chained (lines : List SourceLine) {C : List AddressRange}
    (chained : C.Pairwise fun x y => x.stop ≤ y.start) (nonempty : ∀ c ∈ C, c.start < c.stop)
    (a : Nat) : SourceMap.findLine? ⟨lines, C⟩ a = (C.find? (·.holds a)).map (·.line) := by
  induction C with
  | nil => rfl
  | cons c C ih =>
    obtain ⟨ahead, rest⟩ := List.pairwise_cons.mp chained
    have wide := nonempty c List.mem_cons_self
    by_cases inside : c.start ≤ a ∧ a < c.stop
    · have late : ∀ y ∈ C, (decide (y.start ≤ a)) = false := fun y hy => by
        have := ahead y hy
        simp only [decide_eq_false_iff_not]
        omega
      have holdsC : c.holds a = true := by simp [holds, inside.1, inside.2]
      simp [SourceMap.findLine?, inside.1, inside.2, takeWhile_eq_nil_of_forall late, holdsC]
    · have holdsC : c.holds a = false := by
        simp only [holds, Bool.and_eq_false_iff, decide_eq_false_iff_not]
        omega
      by_cases early : c.start ≤ a
      · have past : ¬ a < c.stop := fun lt => inside ⟨early, lt⟩
        have step := ih rest fun y hy => nonempty y (List.mem_cons_of_mem c hy)
        simp only [SourceMap.findLine?] at step
        simp only [SourceMap.findLine?, List.takeWhile_cons, early, decide_true, List.find?_cons,
          holdsC, ite_true]
        rw [List.getLast?_cons, ← step]
        cases (C.takeWhile fun r => decide (r.start ≤ a)).getLast? <;> simp [past]
      · have unheld : ∀ y ∈ C, y.holds a = false := fun y hy => by
          have := ahead y hy
          simp only [holds, Bool.and_eq_false_iff, decide_eq_false_iff_not]
          omega
        have missing : C.find? (·.holds a) = none :=
          List.find?_eq_none.mpr fun y hy => by simp [unheld y hy]
        simp [SourceMap.findLine?, early, holdsC, missing]

end Search

/-! ## Lookups in a built map -/

section Lookup

open AddressRange

/-- Looking an address up in a built map gives its owner's line. -/
theorem findLine?_build (b : SourceMapBuilder) (addr : Nat) :
    b.build.findLine? addr = (b.owner? addr).map (·.line) := by
  have sorted := List.pairwise_mergeSort sortsBefore_trans sortsBefore_total b.ranges
  have clipped := clipped_of_sorted _ (sorted.imp start_le_of_sortsBefore)
  calc b.build.findLine? addr
      = ((clipRanges (b.ranges.mergeSort sortsBefore)).find? (·.holds addr)).map (·.line) :=
        findLine?_of_chained b.lines clipped.chained clipped.nonempty addr
    _ = ((b.ranges.mergeSort sortsBefore).find? (·.holds addr)).map (·.line) := clipped.first addr
    _ = (b.owner? addr).map (·.line) := by rw [find?_sorted_eq_owner?]

/-- An address has an owner exactly when some added range holds it. -/
theorem owner?_eq_none_iff (b : SourceMapBuilder) (addr : Nat) :
    b.owner? addr = none ↔ ∀ r ∈ b.ranges, r.holds addr = false := by
  rw [← find?_sorted_eq_owner?, List.find?_eq_none]
  simp only [List.mem_mergeSort, Bool.not_eq_true]

/-- The first of the candidates a sample offers that comes out on a line: `findSome?` over
filtered results is `find?` over the results. -/
theorem findSome?_filter {α β : Type} (f : α → Option β) (p : β → Bool) (l : List α) :
    l.findSome? (fun x => (f x).filter p) = (l.filterMap f).find? p := by
  induction l with
  | nil => rfl
  | cons x l ih =>
    cases h : f x with
    | none => simp only [List.findSome?_cons, List.filterMap_cons, h, Option.filter_none, ih]
    | some y =>
      cases hy : p y <;>
        simp only [List.findSome?_cons, List.filterMap_cons, h, Option.filter_some, hy,
          List.find?_cons, ih, Bool.false_eq_true, if_true, if_false]

/-- A sample resolves to the first line outside the profiler among the lines of its address and
of its non-zero return addresses, each taken one byte back. -/
theorem resolve?_eq_find? (m : SourceMap) (s : Sample) :
    m.resolve? s =
      ((s.ip :: (s.callchain.filter (· ≠ 0)).map (· - 1)).filterMap m.findLine?).find? m.external := by
  have callers : m.callerLine? s =
      (((s.callchain.filter (· ≠ 0)).map (· - 1)).filterMap m.findLine?).find? m.external := by
    rw [SourceMap.callerLine?, findSome?_filter, List.filterMap_map]
    rfl
  unfold SourceMap.resolve?
  cases h : m.findLine? s.ip with
  | none => simp [h, callers]
  | some id => cases hx : m.external id <;> simp [h, hx, callers]

/-- **Attribution follows the first range.** In a map built from any added ranges, an address
is looked up to the line of the range holding it with the smallest start, then the smallest
end, then the one added first, and to nothing when no range holds it; and a sample resolves to
the first line outside the profiler among the lines of its address and of its non-zero return
addresses, each looked up one byte back. -/
theorem attribution_follows_first_range (b : SourceMapBuilder) :
    (∀ addr, b.build.findLine? addr = (b.owner? addr).map (·.line)) ∧
    (∀ addr, b.build.findLine? addr = none ↔ ∀ r ∈ b.ranges, r.holds addr = false) ∧
    ∀ s : Sample, b.build.resolve? s =
      ((s.ip :: (s.callchain.filter (· ≠ 0)).map (· - 1)).filterMap b.build.findLine?).find?
        b.build.external := by
  refine ⟨findLine?_build b, fun addr => ?_, resolve?_eq_find? b.build⟩
  rw [findLine?_build, Option.map_eq_none_iff, owner?_eq_none_iff]

/-- Of two overlapping ranges the earlier-starting one keeps the overlap. -/
example :
    let m := ((SourceMapBuilder.empty.add "/causa" 0x100 0x200 "a.rs" 1).add "/causa" 0x180 0x280
      "b.rs" 2).build
    m.findLine? 0x1ff = some 0 ∧ m.findLine? 0x200 = some 1 ∧ m.findLine? 0x280 = none := by
  cbv

end Lookup

end CausalProfiler
