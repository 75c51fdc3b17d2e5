/-!
Blank characters: the Unicode White_Space class. Trimming and splitting into fields, as the
configuration, the profile log and the process maps are read, use this class rather than
ASCII blanks.
-/
namespace CausalProfiler.Text

/-- The Unicode White_Space class: tab to carriage return, space, next line, no-break space,
ogham space mark, the spaces from en quad to hair space, the line and paragraph separators,
narrow no-break space, medium mathematical space and ideographic space. -/
def isBlank (c : Char) : Bool :=
  let n := c.toNat
  (9 ≤ n && n ≤ 13) || n == 0x20 || n == 0x85 || n == 0xA0 || n == 0x1680 ||
    (0x2000 ≤ n && n ≤ 0x200A) || n == 0x2028 || n == 0x2029 || n == 0x202F ||
    n == 0x205F || n == 0x3000

/-- Every ASCII blank of core is blank here too. -/
theorem isBlank_of_isWhitespace (c : Char) (h : c.isWhitespace = true) : isBlank c = true := by
  simp only [Char.isWhitespace, Bool.or_eq_true, decide_eq_true_eq] at h
  simp only [isBlank, Bool.or_eq_true, Bool.and_eq_true, beq_iff_eq, decide_eq_true_eq]
  rcases h with ((h | h) | h) | h <;> subst h <;> decide

/-- Drops blanks at both ends. -/
def trim (cs : List Char) : List Char :=
  ((cs.dropWhile isBlank).reverse.dropWhile isBlank).reverse

/-- `trim` on strings. -/
def trimString (s : String) : String := String.ofList (trim s.toList)

/-- The maximal runs of non-blank characters, in order. -/
def fields (cs : List Char) : List (List Char) :=
  (cs.splitBy fun a b => isBlank a == isBlank b).filter fun run => run.any (!isBlank ·)

/-- `fields` on strings. -/
def fieldsOf (s : String) : List String := (fields s.toList).map String.ofList

end CausalProfiler.Text
