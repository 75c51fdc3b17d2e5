import CausalProfiler.Sample
import CausalProfiler.Number.Read
import CausalProfiler.Text.Blank
/-!
Source maps: which source line each code address belongs to. Lines are numbered in the order
they are first added; a (file, line) pair is one line, keeping the internal flag it was first
added with. Building sorts the address ranges by start and end, keeping the order of equal ones,
and cuts each range's start to the end of the last range kept, dropping ranges that become
empty; so every address belongs to at most one range, the first one added that reaches it.
Lines of the profiler itself are internal: a sample is charged to the first non-internal line
of its address or its call chain.
-/
namespace CausalProfiler

/-- A source line: its file, its number and whether it is the profiler's own. -/
structure SourceLine where
  file : String
  line : Nat
  internal : Bool
deriving Repr, DecidableEq

/-- A line as written in logs and lookups: `file:line`. -/
def SourceLine.name (l : SourceLine) : String := l.file ++ ":" ++ toString l.line

/-- Addresses from `start` up to but excluding `stop`, and their line. -/
structure AddressRange where
  start : Nat
  stop : Nat
  line : Nat
deriving Repr, DecidableEq

/-- A source map under construction. -/
structure SourceMapBuilder where
  lines : List SourceLine
  ranges : List AddressRange

/-- The sources of the profiler itself: the files under the `src` directory of the package it was
built from, at `manifestDir`. -/
def internalPrefix (manifestDir : String) : String := manifestDir ++ "/src/"

namespace SourceMapBuilder

def empty : SourceMapBuilder := ⟨[], []⟩

/-- The id of a (file, line) pair, adding it with the given flag when new. -/
def lineId (b : SourceMapBuilder) (file : String) (line : Nat) (internal : Bool) :
    Nat × SourceMapBuilder :=
  match b.lines.findIdx? fun l => l.file = file ∧ l.line = line with
  | some i => (i, b)
  | none => (b.lines.length, { b with lines := b.lines ++ [⟨file, line, internal⟩] })

/-- Adds a range of a line with an explicit internal flag; empty ranges are ignored. -/
def addWith (b : SourceMapBuilder) (start stop : Nat) (file : String) (line : Nat)
    (internal : Bool) : SourceMapBuilder :=
  if stop ≤ start then b
  else
    let (id, b) := b.lineId file line internal
    { b with ranges := b.ranges ++ [⟨start, stop, id⟩] }

/-- Adds a range; the line is internal when its file lies under the sources of the profiler built
from the package at `manifestDir`. -/
def add (b : SourceMapBuilder) (manifestDir : String) (start stop : Nat) (file : String)
    (line : Nat) : SourceMapBuilder :=
  b.addWith start stop file line ((internalPrefix manifestDir).isPrefixOf file)

end SourceMapBuilder

/-- A built source map: its lines and disjoint ranges with increasing starts. -/
structure SourceMap where
  lines : List SourceLine
  ranges : List AddressRange
deriving Repr

/-- Cuts sorted ranges so that none overlaps one kept before it. -/
def clipRanges (sorted : List AddressRange) : List AddressRange :=
  (sorted.foldl (fun kept r =>
    let r := match kept.head? with
      | some prev => if r.start < prev.stop then { r with start := prev.stop } else r
      | none => r
    if r.start < r.stop then r :: kept else kept) []).reverse

def SourceMapBuilder.build (b : SourceMapBuilder) : SourceMap :=
  ⟨b.lines, clipRanges (b.ranges.mergeSort fun x y =>
    x.start < y.start ∨ (x.start = y.start ∧ x.stop ≤ y.stop))⟩

namespace SourceMap

def line? (m : SourceMap) (id : Nat) : Option SourceLine := m.lines[id]?

/-- The line of the range that contains the address. -/
def findLine? (m : SourceMap) (addr : Nat) : Option Nat :=
  match (m.ranges.takeWhile (·.start ≤ addr)).getLast? with
  | some r => if addr < r.stop then some r.line else none
  | none => none

/-- Whether `path` is `suffix` itself or ends with `/` followed by it. -/
def isPathSuffix (path suffix : String) : Bool :=
  suffix.toList.isSuffixOf path.toList &&
    (let head := path.toList.take (path.length - suffix.length)
     head.isEmpty || head.getLast? == some '/')

/-- The line named `file:line`: the text after the last `:` is the number, blanks trimmed.
An exact file wins; otherwise the lowest id whose file ends with the given path at a `/`. -/
def findByName? (m : SourceMap) (name : String) : Option Nat :=
  let cs := name.toList
  if !cs.contains ':' then none
  else
    let file := String.ofList ((cs.reverse.dropWhile (· ≠ ':')).drop 1).reverse
    let number := String.ofList (cs.reverse.takeWhile (· ≠ ':')).reverse
    match Number.readNat? (Nat.pow 2 32 - 1) (Text.trimString number) with
    | none => none
    | some n =>
      let ids := (List.range m.lines.length).filter fun i =>
        match m.lines[i]? with
        | some l => l.line = n
        | none => false
      match ids.find? (fun i => (m.lines[i]?.map (·.file)) == some file) with
      | some i => some i
      | none => ids.find? fun i => match m.lines[i]? with
        | some l => isPathSuffix l.file file
        | none => false

/-- Whether an id names a line that is not the profiler's own. -/
def external (m : SourceMap) (id : Nat) : Bool :=
  match m.line? id with
  | some l => !l.internal
  | none => false

/-- The first non-internal line of a return address of the call chain, looked up one byte
back (at the call); zero addresses are skipped. -/
def callerLine? (m : SourceMap) (s : Sample) : Option Nat :=
  (s.callchain.filter (· ≠ 0)).findSome? fun ret => (m.findLine? (ret - 1)).filter m.external

/-- The line a sample is charged to: its address's line unless internal, else the first
non-internal caller line. -/
def resolve? (m : SourceMap) (s : Sample) : Option Nat :=
  match m.findLine? s.ip with
  | some id => if m.external id then some id else m.callerLine? s
  | none => m.callerLine? s

end SourceMap

end CausalProfiler
