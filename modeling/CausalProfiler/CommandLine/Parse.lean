import CausalProfiler.CommandLine.Error
import CausalProfiler.Text.Similarity
/-!
Reading a command line against a command.

The words are read from left to right. A word naming a subcommand hands the rest of the line to
it. `--` ends the switches: every later word is a positional value. `--name` and `--name=value`
are long switches; `-abc` is a cluster of short switches, where a short option takes the rest of
the cluster, or the next word, as its value. Any other word is the value of an option waiting
for one, else the next positional's.

A value is read when its argument is settled: when the next switch or positional starts, at `--`
and at the end of the line. So an unknown switch is reported before a bad value given just
before it, and a bad value before a later request for help. After the last word the command
must have its subcommand, and no two conflicting arguments may have been given.

Mistyped names get suggestions: the known long switches and subcommands whose Jaro similarity
to the word exceeds 0.7, the closest last.
-/
namespace CausalProfiler.CommandLine

/-- What a command line comes to. -/
inductive Outcome where
  /-- A help text or a version line, printed as the answer. -/
  | shown (text : String)
  /-- A command given nothing to do: its help, printed as an error. -/
  | helpOnError (text : String)
  /-- A refused command line: the message. -/
  | refused (message : String)
  /-- The subcommands chosen from the top, and the values of the last one's arguments with the
  defaults filled in; a flag given has the value `true`. -/
  | chosen (path : List String) (values : List (String × List String))

/-- The known names like `word`, the most similar last; ties keep their order. -/
def similarNames (word : String) (names : List String) : List String :=
  let scored := (names.map fun n => (Text.jaro word n, n)).filter (0.7 < ·.1)
  (scored.mergeSort fun x y => x.1 ≤ y.1).map (·.2)

/-- The most similar known name, if any is similar enough. -/
def mostSimilar? (word : String) (names : List String) : Option String :=
  (similarNames word names).getLast?

/-- Reads a decimal integer between the bounds: an optional sign, a minus only when the bounds
allow negative numbers, then digits. The reason a text is no such integer names the first
offending character, or the digit where the number leaves the bounds. -/
def readInteger (low high : Int) (text : String) : Except String Int :=
  let invalid := "invalid digit found in string"
  match text.toList with
  | [] => .error "cannot parse integer from empty string"
  | ['+'] | ['-'] => .error invalid
  | c :: cs =>
    let (negative, digits) := if c = '+' then (false, cs)
      else if c = '-' ∧ low < 0 then (true, cs) else (false, c :: cs)
    digits.foldlM (fun (n : Int) d =>
      if !d.isDigit then .error invalid
      else
        let n := if negative then n * 10 - (d.toNat - '0'.toNat) else n * 10 + (d.toNat - '0'.toNat)
        if n < low then .error "number too small to fit in target type"
        else if high < n then .error "number too large to fit in target type"
        else .ok n) 0

/-- Reads one value of an argument into the text kept for it: numbers in their plain decimal
form, other values as given. An empty path counts as no value; a number out of range is
refused with the text as given. -/
def Arg.read (a : Arg) (value : String) : Except UsageError String :=
  match a.kind with
  | .text => .ok value
  | .path => if value.isEmpty then .error (.missingValue a.display []) else .ok value
  | .unsigned bits =>
    match readInteger 0 (Nat.pow 2 bits - 1 : Nat) value with
    | .ok n => .ok (toString n)
    | .error reason => .error (.invalidValue value a.display reason)
  | .ranged lo hi =>
    match readInteger (-(Nat.pow 2 63 : Int)) (Nat.pow 2 63 - 1 : Nat) value with
    | .error reason => .error (.invalidValue value a.display reason)
    | .ok n =>
      if lo ≤ n ∧ n ≤ hi then .ok (toString n)
      else .error (.invalidValue value a.display
        (toString n ++ " is not in " ++ toString lo ++ "..=" ++ toString hi))
  | .choice names =>
    if names.contains value then .ok value
    else if value.isEmpty then .error (.missingValue a.display names)
    else .error (.invalidChoice value a.display names (mostSimilar? value names))

/-- How far a command line has been read at one command. -/
structure Scan where
  /-- The arguments settled so far, in the order they were settled, with their values. -/
  settled : List (String × List String) := []
  /-- The argument whose values are still coming, and those given. -/
  pending : Option (Arg × List String) := none
  /-- Whether the pending argument is an option still waiting for its value. -/
  awaiting : Bool := false
  /-- Whether `--` was given. -/
  trailing : Bool := false
  /-- The index of the next positional. -/
  position : Nat := 0

/-- The ids of the arguments settled so far. -/
def Scan.used (s : Scan) : List String := s.settled.map (·.1)

/-- What reading a word comes to: reading goes on, or ends in an outcome. -/
inductive Step where
  | next (s : Scan)
  | done (o : Outcome)

namespace Placed

def helpHint (p : Placed) : Option String :=
  if p.command.listsHelp then (if p.command.allSubcommands.isEmpty then none else some "help")
  else some "--help"

def refuse (p : Placed) (e : UsageError) : Outcome := .refused (e.render p.helpHint)

/-- Settles an argument with the values given for it: it is recorded, or the request it
makes is answered. -/
def settle (p : Placed) (s : Scan) (a : Arg) (values : List String) : Except UsageError Step :=
  let seen := s.used.contains a.id
  match a.action with
  | .help => .ok (.done (.shown p.help))
  | .version => .ok (.done (.shown p.versionLine))
  | .flag =>
    if seen then .error (.repeated a.display (p.usage [])) else .ok (.next { s with settled := s.settled ++ [(a.id, ["true"])] })
  | .single =>
    if values.isEmpty then .error (.missingValue a.display (match a.kind with | .choice ns => ns | _ => []))
    else if seen then .error (.repeated a.display (p.usage []))
    else
      match values.mapM a.read with
      | .ok vs => .ok (.next { s with settled := s.settled ++ [(a.id, vs)] })
      | .error e => .error e
  | .repeated =>
    if values.isEmpty && !a.valuesOptional then
      .error (.missingValue a.display (match a.kind with | .choice ns => ns | _ => []))
    else
      match values.mapM a.read with
      | .ok vs =>
        let settled := if seen then s.settled.map fun (id, old) => if id = a.id then (id, old ++ vs) else (id, old)
          else s.settled ++ [(a.id, vs)]
        .ok (.next { s with settled := settled })
      | .error e => .error e

/-- Settles the pending argument, if any. -/
def resolve (p : Placed) (s : Scan) : Except UsageError Step :=
  match s.pending with
  | none => .ok (.next s)
  | some (a, values) => p.settle { s with pending := none, awaiting := false } a values

/-- Settles the pending argument before an error is reported; an argument whose value is bad
still counts as given. -/
def resolveQuietly (p : Placed) (s : Scan) : Scan :=
  match s.pending with
  | none => s
  | some (a, values) =>
    let s := { s with pending := none, awaiting := false }
    match p.resolve { s with pending := some (a, values) } with
    | .ok (.next s) => s
    | _ => if values.isEmpty then s else { s with settled := s.settled ++ [(a.id, [])] }

/-- Runs an argument given on the line: the pending one is settled first. -/
def react (p : Placed) (s : Scan) (a : Arg) (values : List String) : Step :=
  match p.resolve s with
  | .error e => .done (p.refuse e)
  | .ok (.done o) => .done o
  | .ok (.next s) =>
    match p.settle s a values with
    | .error e => .done (p.refuse e)
    | .ok step => step

/-- Starts an option whose value is the next word. -/
def await (p : Placed) (s : Scan) (a : Arg) : Step :=
  match p.resolve s with
  | .error e => .done (p.refuse e)
  | .ok (.done o) => .done o
  | .ok (.next s) => .next { s with pending := some (a, []), awaiting := true }

/-- The tip for passing a switch-like word as a value. -/
def asValueTip (word : String) : String := "to pass '" ++ word ++ "' as a value, use '-- " ++ word ++ "'"

/-- An unknown long switch, with the known switch most like it: this command's own, else a
subcommand's that is named later on the line. -/
def unknownLong (p : Placed) (s : Scan) (name : String) (rest : List String) : Outcome :=
  let s := p.resolveQuietly s
  let c := p.command
  let own := mostSimilar? name c.longNames
  let elsewhere := if own.isSome then none else
    let found := c.allSubcommands.filterMap fun sub =>
      (mostSimilar? name sub.longNames).bind fun flag =>
        (rest.findIdx? (· == sub.name)).map fun i => (i, sub.name ++ " --" ++ flag)
    (found.foldl (fun best x => match best with
      | some b => if x.1 < b.1 then some x else some b
      | none => some x) none).map (·.2)
  let ownId := own.bind fun l => (c.findLong? l).map (·.id)
  let word := "--" ++ name
  let asValue := (own.isNone || c.positionals.any (·.last)) && !s.trailing && !c.positionals.isEmpty
  let tips := (if asValue then [asValueTip word] else []) ++
    (elsewhere.map fun t => ["'" ++ t ++ "' exists"]).getD []
  p.refuse (.unknownArgument word (own.map ("--" ++ ·)) tips (p.usage (s.used ++ ownId.toList)))

/-- Reads a long switch, with the value after `=` if one was attached. -/
def long (p : Placed) (s : Scan) (name : String) (attached : Option String) (rest : List String) : Step :=
  match p.command.findLong? name with
  | none => .done (p.unknownLong s name rest)
  | some a =>
    if a.takesValue then
      match attached with
      | some v => p.react s a [v]
      | none => p.await s a
    else
      match attached with
      | some v =>
        let usage := p.usage (s.used ++ [a.id])
        let _ := p.resolveQuietly s
        .done (p.refuse (.unexpectedValue v a.display usage))
      | none => p.react s a []

/-- Reads a cluster of short switches. -/
def shorts (p : Placed) (s : Scan) : List Char → Step
  | [] => .next s
  | ch :: more =>
    match p.command.findShort? ch with
    | none =>
      let s := p.resolveQuietly s
      let word := "-" ++ ch.toString
      let tips := if !s.trailing && !p.command.positionals.isEmpty then [asValueTip word] else []
      .done (p.refuse (.unknownArgument word none tips (p.usage [])))
    | some a =>
      if a.takesValue then
        match more with
        | [] => p.await s a
        | '=' :: value => p.react s a [String.ofList value]
        | value => p.react s a [String.ofList value]
      else
        match p.react s a [] with
        | .next s => p.shorts s more
        | .done o => .done o

/-- A word that no argument takes: perhaps a mistyped subcommand. -/
def stray (p : Placed) (s : Scan) (word : String) : Outcome :=
  let s := p.resolveQuietly s
  let c := p.command
  if s.trailing && (c.findSubcommand? word).isSome then
    p.refuse (.unknownArgument word none
      ["subcommand '" ++ word ++ "' exists; to use it, remove the '--' before it"] (p.usage []))
  else if !c.allSubcommands.isEmpty then
    let similar := similarNames word (c.allSubcommands.map (·.name))
    if !similar.isEmpty then p.refuse (.unknownSubcommand word similar [] (p.usage []))
    else if c.positionals.isEmpty then p.refuse (.unknownSubcommand word [] [] (p.usage []))
    else p.refuse (.unknownArgument word none [] (p.usage []))
  else p.refuse (.unknownArgument word none [] (p.usage []))

/-- Reads a positional value. -/
def positional (p : Placed) (s : Scan) (word : String) : Step :=
  match p.command.positionals[s.position]? with
  | none => .done (p.stray s word)
  | some a =>
    if a.last && !s.trailing then
      .done (p.refuse (.unknownArgument word none [] (p.usage [])))
    else
      let same := match s.pending with
        | some (b, _) => b.id == a.id && a.action = Action.repeated
        | none => false
      if same then
        .next { s with pending := s.pending.map fun (b, vs) => (b, vs ++ [word]) }
      else
        match p.resolve s with
        | .error e => .done (p.refuse e)
        | .ok (.done o) => .done o
        | .ok (.next s) =>
          .next { s with pending := some (a, [word]),
                         position := if a.action = Action.repeated then s.position else s.position + 1 }

/-- The first two arguments given that may not be given together. -/
def conflict? (c : Command) (used : List String) : Option (Arg × List Arg) :=
  used.findSome? fun id =>
    (c.findArg? id).bind fun a =>
      let others := used.filterMap fun o =>
        (c.findArg? o).filter fun b => b.id != a.id && (a.conflicts.contains b.id || b.conflicts.contains a.id)
      if others.isEmpty then none else some (a, others)

/-- The checks after the last word of a command without a chosen subcommand. -/
def finish (p : Placed) (path : List String) (s : Scan) : Outcome :=
  match p.resolve s with
  | .error e => p.refuse e
  | .ok (.done o) => o
  | .ok (.next s) =>
    let c := p.command
    if !c.allSubcommands.isEmpty then .helpOnError p.help
    else
      match conflict? c s.used with
      | some (a, others) =>
        let rest := s.used.filter fun id => !(others.any (·.id == id))
        p.refuse (.conflict a.display ((others.head?.map (·.display)).getD "") (p.usage rest))
      | none =>
        let defaults := c.allArgs.filterMap fun a =>
          if s.used.contains a.id then none else a.default.map fun d => (a.id, [d])
        .chosen path (s.settled ++ defaults)

/-- The help named by the words after `help`: each word names a subcommand of the one before. -/
def helpFor (p : Placed) : List String → Outcome
  | [] => .shown p.help
  | word :: rest =>
    match p.command.findSubcommand? word with
    | some sub => (p.enter sub).helpFor rest
    | none => p.refuse (.unknownSubcommand word [] [] (p.usage []))

end Placed

/-- Reads the words of a command line at a placed command, `path` naming the subcommands
chosen so far. -/
def Placed.read (p : Placed) (path : List String) (s : Scan) : List String → Outcome
  | [] => p.finish path s
  | word :: rest =>
    let sub := if s.trailing then none else p.command.findSubcommand? word
    match sub with
    | some c =>
      if c.listsHelp then p.helpFor rest
      else (p.enter c).read (path ++ [c.name]) {} rest
    | none =>
      let step : Step :=
        if s.trailing then p.positional s word
        else if word = "--" then
          match p.resolve s with
          | .error e => .done (p.refuse e)
          | .ok (.done o) => .done o
          | .ok (.next s) => .next { s with trailing := true }
        else if word.startsWith "--" then
          let body := (word.drop 2).toString
          match body.splitOn "=" with
          | name :: value :: more => p.long s name (some ("=".intercalate (value :: more))) rest
          | _ => p.long s body none rest
        else if word.startsWith "-" && word != "-" then p.shorts s (word.drop 1).toString.toList
        else if s.awaiting then
          .next { s with pending := s.pending.map (fun (a, vs) => (a, vs ++ [word])), awaiting := false }
        else p.positional s word
      match step with
      | .next s => p.read path s rest
      | .done o => o

/-- Reads a command line against a program's command. -/
def Command.readLine (c : Command) (words : List String) : Outcome :=
  (Placed.mk c c.name c.name).read [] {} words

end CausalProfiler.CommandLine
