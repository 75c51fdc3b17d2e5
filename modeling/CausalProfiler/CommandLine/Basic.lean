/-!
Command lines described as data. A command has a name, a one-line description, perhaps a
version, its arguments and its subcommands. An argument is a switch, with a long name
(`--name`), a one-letter short name (`-n`) or both, or a positional, with neither. A switch is a
flag, an option taking one value once, an option taking one value each time it is given, or one
of the built-in requests for help or for the version. A positional takes one value, or all the
values that remain; a last positional takes only the values after `--`.

Every command answers `-h` and `--help`; a command with a version answers `-V` and `--version`;
a command with subcommands must be given one, and has one more, `help`, which names the command
whose help to print.
-/
namespace CausalProfiler.CommandLine

/-- How the text of a value is read. -/
inductive ValueKind where
  /-- Any text. -/
  | text
  /-- A path: any text but the empty one. -/
  | path
  /-- An unsigned integer below `2 ^ bits`. -/
  | unsigned (bits : Nat)
  /-- An integer that fits a signed 64-bit word, between the bounds. -/
  | ranged (lo hi : Int)
  /-- One of the names, exactly as written. -/
  | choice (names : List String)
deriving Repr, DecidableEq

/-- What an argument does each time it is given. -/
inductive Action where
  /-- Turns on; may be given once. -/
  | flag
  /-- Takes one value; may be given once. -/
  | single
  /-- Takes one value each time, or all remaining values as a positional. -/
  | repeated
  | help
  | version
deriving Repr, DecidableEq

structure Arg where
  id : String
  long : Option String := none
  short : Option Char := none
  action : Action := .single
  valueName : String := ""
  kind : ValueKind := .text
  help : String := ""
  default : Option String := none
  /-- Arguments that may not be given with this one. -/
  conflicts : List String := []
  /-- A positional that takes only the values after `--`. -/
  last : Bool := false
  /-- A positional that may be given no value at all. -/
  valuesOptional : Bool := false
deriving Repr, DecidableEq

namespace Arg

def isPositional (a : Arg) : Bool := a.long.isNone && a.short.isNone

def takesValue (a : Arg) : Bool := a.action = .single || a.action = .repeated

/-- The placeholder of the argument's value: a positional's is in brackets when it may be left
out, and one taking all remaining values ends in dots. -/
def valueText (a : Arg) (required : Bool) : String :=
  if a.isPositional then
    let name := if a.valuesOptional || !required then "[" ++ a.valueName ++ "]" else "<" ++ a.valueName ++ ">"
    if a.action = .repeated then name ++ "..." else name
  else "<" ++ a.valueName ++ ">"

/-- The argument as messages name it: its long name, else its short name, and its value. -/
def display (a : Arg) : String :=
  let name := match a.long, a.short with
    | some l, _ => "--" ++ l
    | none, some s => "-" ++ s.toString
    | none, none => ""
  if a.isPositional then a.valueText false
  else if a.takesValue then name ++ " " ++ a.valueText false
  else name

/-- Whether the argument's help lists it among the options that usage lines sum up. -/
def isOrdinaryOption (a : Arg) : Bool :=
  !a.isPositional && a.action != .help && a.action != .version

end Arg

/-- The built-in request for help. -/
def helpArg : Arg :=
  { id := "help", long := some "help", short := some 'h', action := .help, help := "Print help" }

/-- The built-in request for the version. -/
def versionArg : Arg :=
  { id := "version", long := some "version", short := some 'V', action := .version,
    help := "Print version" }

structure Command where
  name : String
  about : Option String := none
  version : Option String := none
  args : List Arg := []
  subcommands : List Command := []
  /-- The built-in `help` subcommand, whose values name subcommands. -/
  listsHelp : Bool := false

/-- The built-in subcommand that prints the help of the command its values name. -/
def helpCommand : Command :=
  { name := "help"
    about := some "Print this message or the help of the given subcommand(s)"
    args := [{ id := "subcommand", action := .repeated, valueName := "COMMAND"
               valuesOptional := true, help := "Print help for the subcommand(s)" }]
    listsHelp := true }

namespace Command

/-- Every argument of a command, the built-in requests after its own. -/
def allArgs (c : Command) : List Arg :=
  if c.listsHelp then c.args
  else c.args ++ [helpArg] ++ (if c.version.isSome then [versionArg] else [])

/-- Every subcommand of a command, `help` after its own. -/
def allSubcommands (c : Command) : List Command :=
  if c.subcommands.isEmpty then [] else c.subcommands ++ [helpCommand]

def positionals (c : Command) : List Arg := c.allArgs.filter (·.isPositional)

def switches (c : Command) : List Arg := c.allArgs.filter (!·.isPositional)

def findArg? (c : Command) (id : String) : Option Arg := c.allArgs.find? (·.id == id)

def findLong? (c : Command) (name : String) : Option Arg := c.allArgs.find? (·.long == some name)

def findShort? (c : Command) (ch : Char) : Option Arg := c.allArgs.find? (·.short == some ch)

def findSubcommand? (c : Command) (name : String) : Option Command :=
  c.allSubcommands.find? (·.name == name)

/-- The long names of a command's switches, in order. -/
def longNames (c : Command) : List String := c.allArgs.filterMap (·.long)

end Command

/-- A command together with the names it is called by: in usage lines, the names from the
program down to it joined by spaces; in the version line, joined by dashes. -/
structure Placed where
  command : Command
  usageName : String
  displayName : String

/-- A subcommand of a placed command, placed. -/
def Placed.enter (p : Placed) (c : Command) : Placed :=
  ⟨c, p.usageName ++ " " ++ c.name, p.displayName ++ "-" ++ c.name⟩

end CausalProfiler.CommandLine
