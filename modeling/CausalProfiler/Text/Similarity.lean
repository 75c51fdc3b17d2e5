/-!
How alike two names are, for suggesting a known name in place of a mistyped one.

The Jaro similarity pairs each character of the first text with the first unpaired equal
character of the second that lies within a window of half the longer length, less one, of its
position. With `m` pairs, of which `t` stand in a different order in the two texts (counted as
the mismatches between the paired characters read in order, halved), the similarity is the
mean of `m / |a|`, `m / |b|` and `(m - t) / m`, computed in doubles; texts without pairs have
similarity 0 and two empty texts 1.

The edit distance counts the fewest insertions, deletions, replacements and swaps of two
neighbouring characters that turn one text into the other, no character being edited twice.
-/
namespace CausalProfiler.Text

/-- The pairing of the Jaro similarity: which characters of `a` and of `b` are paired. -/
def jaroPairs (window : Nat) (a b : List Char) : List Bool × List Bool :=
  a.zipIdx.foldl (fun (marksA, marksB) (c, i) =>
    let hi := min b.length (i + window + 1)
    let free := fun (j : Nat) => i - window ≤ j ∧ j < hi ∧ b[j]? = some c ∧ marksB[j]? = some false
    match (List.range b.length).find? free with
    | some j => (marksA ++ [true], marksB.set j true)
    | none => (marksA ++ [false], marksB)) ([], b.map fun _ => false)

/-- The characters of a text whose marks are set, in order. -/
def marked (cs : List Char) (marks : List Bool) : List Char :=
  (cs.zip marks).filterMap fun (c, m) => if m then some c else none

/-- The Jaro similarity of two texts. -/
def jaro (a b : String) : Float :=
  let a := a.toList
  let b := b.toList
  if a.isEmpty && b.isEmpty then 1
  else if a.isEmpty || b.isEmpty then 0
  else
    let (marksA, marksB) := jaroPairs (max a.length b.length / 2 - 1) a b
    let pa := marked a marksA
    let pb := marked b marksB
    let m := pa.length
    let t := ((pa.zip pb).filter fun (x, y) => x ≠ y).length / 2
    if m = 0 then 0
    else (m.toFloat / a.length.toFloat + m.toFloat / b.length.toFloat +
      (m - t).toFloat / m.toFloat) / 3

/-- One row of the edit distance table: the distances from the first `i + 1` characters of the
first text, ending in `c` after `before`, to each prefix of `b`, given the two rows above. -/
def distanceRow (b : List Char) (i : Nat) (c : Char) (before : Option Char)
    (above2 above : List Nat) : List Nat :=
  (List.range b.length).foldl (fun row j =>
    let replace := if b[j]? = some c then 0 else 1
    let best := min (above.getD (j + 1) 0 + 1) (min (row.getD j 0 + 1) (above.getD j 0 + replace))
    let swapped := 0 < j ∧ b[j - 1]? = some c ∧ before.isSome ∧ b[j]? = before
    row ++ [if swapped then min best (above2.getD (j - 1) 0 + 1) else best]) [i + 1]

/-- The edit distance of two texts, swaps of neighbours included. -/
def editDistance (a b : String) : Nat :=
  let b := b.toList
  let (_, last, _) := a.toList.zipIdx.foldl (fun (above2, above, before) (c, i) =>
    (above, distanceRow b i c before above2 above, some c))
    (([] : List Nat), List.range (b.length + 1), (none : Option Char))
  last.getD b.length 0

end CausalProfiler.Text
