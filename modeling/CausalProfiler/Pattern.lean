/-!
Wildcard patterns over bytes. In a pattern, `%` and `*` each stand for any run of bytes, the
empty run included, and every other byte stands for itself. Matching scans the text once,
remembering the last wildcard and the text position it was tried at; on a mismatch it lets that
wildcard take one more byte. `Scan.step` is one round of that scan, and `matches` runs it on fuel
that no scan exhausts; `accepts` is the whole match.
-/
namespace CausalProfiler.Pattern

/-- The two wildcard bytes, `%` and `*`. -/
def isWild (b : UInt8) : Bool := b == 37 || b == 42

/-- Where a scan stands: in the pattern, in the text, and at the last wildcard with the text
position it currently absorbs up to. -/
structure Scan where
  p : Nat
  t : Nat
  back : Option (Nat × Nat)

/-- What one round of a scan gives: another position, or the answer. -/
inductive Next where
  | next (s : Scan)
  | done (answer : Bool)

/-- Backtracks to the last wildcard, letting it absorb one more byte; without one the scan
fails. -/
def Scan.retry : Scan → Next
  | ⟨_, _, some (wp, wt)⟩ => .next ⟨wp + 1, wt + 1, some (wp, wt + 1)⟩
  | ⟨_, _, none⟩ => .done false

/-- One round: at a wildcard remember it and step past it; on an equal byte step both; else
let the last wildcard absorb one more byte, or fail without one. At the end of the text, what
remains of the pattern must be wildcards. -/
def Scan.step (pattern text : List UInt8) (s : Scan) : Next :=
  match text[s.t]? with
  | none => .done ((pattern.drop s.p).all isWild)
  | some c =>
    match pattern[s.p]? with
    | some b =>
      if isWild b then .next ⟨s.p + 1, s.t, some (s.p, s.t)⟩
      else if b == c then .next ⟨s.p + 1, s.t + 1, s.back⟩
      else s.retry
    | none => s.retry

/-- Runs a scan for at most `fuel` rounds; out of fuel counts as no match. -/
def Scan.run (pattern text : List UInt8) : Nat → Scan → Bool
  | 0, _ => false
  | fuel + 1, s =>
    match s.step pattern text with
    | .done answer => answer
    | .next s => Scan.run pattern text fuel s

/-- Rounds enough for any scan: the wildcard's text position moves at most once per text byte,
and between its moves the scan advances at most once per pattern or text byte. -/
def fuelFor (pattern text : List UInt8) : Nat :=
  (text.length + 2) * (pattern.length + text.length + 2)

/-- Whether the text matches the pattern, byte by byte. -/
def accepts (pattern text : String) : Bool :=
  let p := pattern.toUTF8.toList
  let t := text.toUTF8.toList
  Scan.run p t (fuelFor p t) ⟨0, 0, none⟩

/-- Whether some pattern of a list matches. -/
def matchesAny (patterns : List String) (text : String) : Bool :=
  patterns.any fun p => accepts p text

end CausalProfiler.Pattern
