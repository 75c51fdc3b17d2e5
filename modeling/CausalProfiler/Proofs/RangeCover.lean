import CausalProfiler.Proofs.Attribution
import CausalProfiler.Proofs.LineLookup
/-!
# Built ranges cover the added ones

Building a map sorts the added ranges by start and end and walks them once, cutting each range
at the end of the last range kept and dropping it when nothing is left. The walk compares a range
with the last kept one only; that is enough because the last kept range ends at the largest end
walked so far, so no earlier range reaches past it.

* `Grown.ranges_nonempty`: adding ranges keeps only the non-empty ones;
* `lastStop_clipRanges`: after every step of the walk, the last kept range ends at the largest
  end of the non-empty ranges walked so far, and nothing is kept before one is walked;
* `Clipped.covers_iff`, `ordered_disjoint_of_chained`: the kept ranges hold the addresses the
  walked ones hold, and are ordered by start and share no address;
* `build_partitions_added_ranges`: the ranges of a built map are non-empty, have increasing
  starts, share no address and hold exactly the addresses of the added ranges, and the walk
  that cuts them keeps the largest end in its last range.
-/
namespace CausalProfiler

namespace SourceMapBuilder

theorem ranges_lineId (b : SourceMapBuilder) (file : String) (line : Nat) (internal : Bool) :
    (b.lineId file line internal).2.ranges = b.ranges := by
  unfold lineId
  split <;> rfl

/-- Adding a range appends it when it is non-empty and ignores it otherwise. -/
theorem ranges_addWith (b : SourceMapBuilder) (start stop : Nat) (file : String) (line : Nat)
    (internal : Bool) :
    (b.addWith start stop file line internal).ranges =
      if stop ≤ start then b.ranges
      else b.ranges ++ [⟨start, stop, (b.lineId file line internal).1⟩] := by
  unfold addWith
  split
  · rfl
  · have same := ranges_lineId b file line internal
    rcases h : b.lineId file line internal with ⟨id, b'⟩
    rw [h] at same
    dsimp only
    rw [same]

/-- A builder grown by adding ranges holds only non-empty ones. -/
theorem Grown.ranges_nonempty {b : SourceMapBuilder} (h : b.Grown) :
    ∀ r ∈ b.ranges, r.start < r.stop := by
  induction h with
  | empty => exact fun r mem => by cases mem
  | addWith start stop file line internal _ _ ih =>
    intro r mem
    rw [ranges_addWith] at mem
    split at mem
    · exact ih r mem
    · rcases List.mem_append.mp mem with old | new
      · exact ih r old
      · rw [List.mem_singleton.mp new]
        dsimp only
        omega

end SourceMapBuilder

section Clipping

open AddressRange

/-- The largest of a list of naturals with one more at its end. -/
theorem max?_append_singleton (l : List Nat) (x : Nat) :
    (l ++ [x]).max? = some ((l.max?.map (max · x)).getD x) := by
  cases l with
  | nil => rfl
  | cons y l =>
    rw [List.cons_append, List.max?_cons', List.max?_cons', List.foldl_append]
    rfl

/-- **The walk keeps the running maximum.** After cutting any list of ranges, the last range
kept ends at the largest end among the non-empty ranges of the list; nothing is kept while
none of them is non-empty. -/
theorem lastStop_clipRanges (S : List AddressRange) :
    (clipRanges S).getLast?.map (·.stop) =
      ((S.filter fun r => r.start < r.stop).map (·.stop)).max? := by
  induction S using List.reverseRecOn with
  | nil => rfl
  | append_singleton S r ih =>
    obtain ⟨start, stop, -⟩ := after_getLast? r (clipRanges S)
    have reached : reach (clipRanges S) =
        (((S.filter fun r => r.start < r.stop).map (·.stop)).max?).getD 0 := by
      rw [reach, ih]
    rw [clipRanges_snoc, List.filter_append]
    split
    · -- the range outlasts the reach: it is kept, non-empty, and its end is the new maximum
      rename_i kept
      rw [start, stop] at kept
      have wide : r.start < r.stop := by omega
      rw [List.getLast?_append, List.getLast?_singleton, Option.some_or, Option.map_some,
        stop, List.filter_singleton, decide_eq_true wide, cond_true, List.map_append,
        List.map_singleton, max?_append_singleton]
      cases h : ((S.filter fun r => r.start < r.stop).map (·.stop)).max? with
      | none => rfl
      | some m =>
        rw [h, Option.getD_some] at reached
        simp only [Option.map_some, Option.getD_some]
        congr 1
        omega
    · -- the range ends by the reach, or is empty: the maximum stays
      rename_i dropped
      rw [start, stop] at dropped
      rw [ih]
      by_cases wide : r.start < r.stop
      · rw [List.filter_singleton, decide_eq_true wide, cond_true, List.map_append,
          List.map_singleton, max?_append_singleton]
        cases h : ((S.filter fun r => r.start < r.stop).map (·.stop)).max? with
        | none =>
          rw [h, Option.getD_none] at reached
          omega
        | some m =>
          rw [h, Option.getD_some] at reached
          simp only [Option.map_some, Option.getD_some]
          congr 1
          omega
      · rw [List.filter_singleton, decide_eq_false wide, cond_false, List.append_nil]

/-- Cut ranges hold exactly the addresses the walked ranges hold. -/
theorem Clipped.covers_iff {S C : List AddressRange} (h : Clipped S C) (a : Nat) :
    (∃ c ∈ C, c.holds a = true) ↔ ∃ r ∈ S, r.holds a = true := by
  have same := congrArg Option.isSome (h.first a)
  rw [Option.isSome_map, Option.isSome_map] at same
  rw [← List.find?_isSome, ← List.find?_isSome, same]

/-- Non-empty ranges that each end by the start of every later one have increasing starts and
share no address. -/
theorem ordered_disjoint_of_chained {C : List AddressRange}
    (chained : C.Pairwise fun x y => x.stop ≤ y.start) (nonempty : ∀ c ∈ C, c.start < c.stop) :
    C.Pairwise fun x y => x.start < y.start ∧ ∀ a, x.holds a = true → y.holds a = false := by
  refine chained.imp_of_mem fun {x y} hx _ ends => ⟨?_, fun a held => ?_⟩
  · exact Nat.lt_of_lt_of_le (nonempty x hx) ends
  · simp only [holds, Bool.and_eq_true, decide_eq_true_eq] at held
    simp only [holds, Bool.and_eq_false_iff, decide_eq_false_iff_not]
    omega

end Clipping

open AddressRange in
/-- **Built ranges partition the added ones.** For a builder grown by any additions, the
ranges of the built map are non-empty, have strictly increasing starts and share no address,
and hold exactly the addresses that the added ranges hold. The walk that builds them visits the
added ranges sorted by start and end; after each of its steps, the last range kept ends at the
largest end of the ranges walked so far. -/
theorem build_partitions_added_ranges (b : SourceMapBuilder) (grown : b.Grown) :
    (∀ c ∈ b.build.ranges, c.start < c.stop) ∧
    b.build.ranges.Pairwise
      (fun x y => x.start < y.start ∧ ∀ a, x.holds a = true → y.holds a = false) ∧
    (∀ a, (∃ c ∈ b.build.ranges, c.holds a = true) ↔ ∃ r ∈ b.ranges, r.holds a = true) ∧
    ∀ k, (clipRanges ((b.ranges.mergeSort sortsBefore).take k)).getLast?.map (·.stop) =
      (((b.ranges.mergeSort sortsBefore).take k).map (·.stop)).max? := by
  have sorted := List.pairwise_mergeSort sortsBefore_trans sortsBefore_total b.ranges
  have clipped := clipped_of_sorted _ (sorted.imp start_le_of_sortsBefore)
  refine ⟨clipped.nonempty, ordered_disjoint_of_chained clipped.chained clipped.nonempty,
    fun a => (clipped.covers_iff a).trans ?_, fun k => ?_⟩
  · simp only [List.mem_mergeSort]
  · -- every walked range is an added one, and added ranges are non-empty
    have wide : ((b.ranges.mergeSort sortsBefore).take k).filter (fun r => r.start < r.stop) =
        (b.ranges.mergeSort sortsBefore).take k := by
      refine List.filter_eq_self.mpr fun r mem => ?_
      have added := List.mem_mergeSort.mp (List.mem_of_mem_take mem)
      exact decide_eq_true (grown.ranges_nonempty r added)
    rw [lastStop_clipRanges, wide]

/-- Two overlapping ranges, `0x100` to `0x200` and `0x180` to `0x280`, added to an empty
builder. -/
theorem overlapping_ranges_partition :
    let b := (SourceMapBuilder.empty.addWith 0x100 0x200 "a.rs" 1 false).addWith
      0x180 0x280 "b.rs" 2 false
    b.Grown ∧
      ((∀ c ∈ b.build.ranges, c.start < c.stop) ∧
      b.build.ranges.Pairwise
        (fun x y => x.start < y.start ∧ ∀ a, x.holds a = true → y.holds a = false) ∧
      (∀ a, (∃ c ∈ b.build.ranges, c.holds a = true) ↔ ∃ r ∈ b.ranges, r.holds a = true) ∧
      ∀ k, (clipRanges ((b.ranges.mergeSort AddressRange.sortsBefore).take k)).getLast?.map
          (·.stop) =
        (((b.ranges.mergeSort AddressRange.sortsBefore).take k).map (·.stop)).max?) := by
  intro b
  have grown : b.Grown := .addWith _ _ _ _ _ (.addWith _ _ _ _ _ .empty (by decide)) (by decide)
  exact ⟨grown, build_partitions_added_ranges b grown⟩

end CausalProfiler
