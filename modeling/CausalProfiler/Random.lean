/-!
Pseudo-random words for delay draws. The generator is xoshiro256++ over four words. A seed word
is spread over the four by eight outputs of the PCG32 step, read as little-endian halves; the
all-zero state, on which xoshiro would stay at zero, is replaced by the SplitMix64 expansion of
zero. A draw from `0..=high` takes the high word of the widening product of a random word and
the range size and rejects the words whose low half lies above a zone, which leaves every value
of the range equally likely.
-/
namespace CausalProfiler

/-- The four state words of a xoshiro256++ generator. -/
structure Xoshiro where
  s0 : UInt64
  s1 : UInt64
  s2 : UInt64
  s3 : UInt64
deriving Repr, DecidableEq

namespace Xoshiro

def rotateLeft (x : UInt64) (k : UInt64) : UInt64 := (x <<< k) ||| (x >>> (64 - k))

/-- The next word and the advanced state. -/
def next (g : Xoshiro) : UInt64 × Xoshiro :=
  let out := rotateLeft (g.s0 + g.s3) 23 + g.s0
  let t := g.s1 <<< 17
  let s2 := g.s2 ^^^ g.s0
  let s3 := g.s3 ^^^ g.s1
  let s1 := g.s1 ^^^ s2
  let s0 := g.s0 ^^^ s3
  (out, ⟨s0, s1, s2 ^^^ t, rotateLeft s3 45⟩)

/-- One PCG32 step: the advanced state and its 32-bit output. -/
def pcgStep (state : UInt64) : UInt32 × UInt64 :=
  let state := state * 6364136223846793005 + 11634580027462260723
  let mixed := (((state >>> 18) ^^^ state) >>> 27).toUInt32
  let rot := (state >>> 59).toUInt32
  ((mixed >>> rot) ||| (mixed <<< (32 - rot)), state)

/-- One SplitMix64 step: the advanced state and its output. -/
def splitMixStep (state : UInt64) : UInt64 × UInt64 :=
  let state := state + 0x9e3779b97f4a7c15
  let z := (state ^^^ (state >>> 30)) * 0xbf58476d1ce4e5b9
  let z := (z ^^^ (z >>> 27)) * 0x94d049bb133111eb
  (z ^^^ (z >>> 31), state)

/-- `n` outputs of a step function from a starting state. -/
def outputs {β : Type} (step : UInt64 → β × UInt64) : Nat → UInt64 → List β
  | 0, _ => []
  | n + 1, state => let (x, state) := step state; x :: outputs step n state

/-- A word whose low half is `lo` and high half `hi`. -/
def join (lo hi : UInt32) : UInt64 := lo.toUInt64 ||| (hi.toUInt64 <<< 32)

/-- The state of four words, the all-zero state replaced by the SplitMix64 expansion of zero. -/
def ofWords : List UInt64 → Xoshiro
  | [a, b, c, d] =>
    if a = 0 ∧ b = 0 ∧ c = 0 ∧ d = 0 then
      match outputs splitMixStep 4 0 with
      | [a, b, c, d] => ⟨a, b, c, d⟩
      | _ => ⟨1, 0, 0, 0⟩
    else ⟨a, b, c, d⟩
  | _ => ⟨1, 0, 0, 0⟩

/-- The generator seeded by one word. -/
def seed (n : UInt64) : Xoshiro :=
  match outputs pcgStep 8 n with
  | [a0, a1, b0, b1, c0, c1, d0, d1] => ofWords [join a0 a1, join b0 b1, join c0 c1, join d0 d1]
  | _ => ⟨1, 0, 0, 0⟩

/-- The leading zero bits of a nonzero word. -/
def leadingZeros (x : UInt64) : Nat := 63 - x.toNat.log2

/-- Rejection sampling of `⌊v · range / 2^64⌋` for random words `v`, accepting the first whose
low product word is at most `zone`. Each attempt is accepted with probability above one half,
so the attempts allowed are never used up in practice; the last attempt's value stands then. -/
def reject (range zone : Nat) : Nat → Xoshiro → UInt64 × Xoshiro
  | 0, g => let (v, g) := g.next; ((v.toNat * range / Nat.pow 2 64).toUInt64, g)
  | fuel + 1, g =>
    let (v, g) := g.next
    let p := v.toNat * range
    if p % Nat.pow 2 64 ≤ zone then ((p / Nat.pow 2 64).toUInt64, g) else reject range zone fuel g

/-- A word drawn uniformly from `0..=high`. -/
def upTo (high : UInt64) (g : Xoshiro) : UInt64 × Xoshiro :=
  let range := high + 1
  if range = 0 then g.next
  else reject range.toNat (range.toNat * Nat.pow 2 (leadingZeros range) - 1) 256 g

end Xoshiro

end CausalProfiler
