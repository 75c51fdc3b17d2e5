import CausalProfiler.CommandLine.Basic
/-!
Usage lines and help texts.

A usage line names the command, then `[OPTIONS]` when it has ordinary options and no argument
was given, then the options given, then every positional, then `<COMMAND>` when a subcommand is
due. A positional given is written as required; one not given is in brackets; a last positional
is preceded by `--`.

A help text gives the description, the usage line and three sections: the subcommands, the
positionals and the switches, each entry with its help and the default and possible values.
Entries are aligned in a column after the longest name. When an entry's help would run past a
line of 100 columns and the names take more than 40 of them, every entry of its section puts its
help on the next line instead, indented by ten.
-/
namespace CausalProfiler.CommandLine

/-- The width of the lines help texts are laid out for. -/
def lineWidth : Nat := 100

/-- Joins texts, each after a space. -/
def spaced (parts : List String) : String := String.join (parts.map (" " ++ ·))

/-- A positional in a usage line, given or not. -/
def Arg.usageText (a : Arg) (given : Bool) : String :=
  if given then (if a.last then "-- " else "") ++ a.valueText true
  else if a.last then "[-- " ++ a.valueText true ++ "]"
  else a.valueText false

/-- Keeps the first of equal texts. -/
def dedup (xs : List String) : List String :=
  xs.foldl (fun kept x => if kept.contains x then kept else kept ++ [x]) []

/-- The usage line of a command after the arguments `used` were given. -/
def Placed.usage (p : Placed) (used : List String) : String :=
  let c := p.command
  let options := dedup (used.filterMap fun id =>
    (c.findArg? id).bind fun a => if a.isPositional then none else some a.display)
  let positionals := c.positionals.map fun a => a.usageText (used.contains a.id)
  let tag := if used.isEmpty && c.allArgs.any (·.isOrdinaryOption) then " [OPTIONS]" else ""
  let sub := if c.allSubcommands.isEmpty then "" else " <COMMAND>"
  p.usageName ++ tag ++ spaced (options ++ positionals) ++ sub

/-- The bracketed notes after an argument's help: its default and its possible values. -/
def Arg.notes (a : Arg) : String :=
  let default := a.default.map fun d =>
    "[default: " ++ (if d.any Char.isWhitespace then "\"" ++ d ++ "\"" else d) ++ "]"
  let values := match a.kind with
    | .choice names => some ("[possible values: " ++ ", ".intercalate names ++ "]")
    | _ => none
  " ".intercalate (default.toList ++ values.toList)

/-- An argument's help followed by its notes. -/
def Arg.helpText (a : Arg) : String :=
  let notes := a.notes
  if notes.isEmpty then a.help else if a.help.isEmpty then notes else a.help ++ " " ++ notes

/-- The name column of an argument's entry. -/
def Arg.entryName (a : Arg) : String :=
  if a.isPositional then a.valueText false
  else
    let short := match a.short, a.long with
      | some s, _ => "-" ++ s.toString
      | none, some _ => "    "
      | none, none => ""
    let long := match a.long with
      | some l => (if a.short.isSome then ", " else "") ++ "--" ++ l
      | none => ""
    short ++ long ++ (if a.takesValue then " " ++ a.valueText false else "")

/-- Where a section's help column starts, after names at most `longest` wide. -/
def helpColumn (positional : Bool) (longest : Nat) : Nat :=
  if positional then longest + 4 else longest + 8

/-- Whether help of this width would push a section's entries onto their next lines. -/
def overflows (taken helpWidth : Nat) : Bool :=
  taken ≤ lineWidth && 40 < taken && lineWidth - taken < helpWidth

/-- The entries of a section of arguments, each on its own line or lines. -/
def argEntries (args : List Arg) : List String :=
  let positional := args.all (·.isPositional)
  let longest := args.foldl (fun w a => max w a.display.length) 2
  let taken := helpColumn positional longest
  let nextLine := args.any fun a => overflows taken (a.help.length + a.notes.length)
  args.map fun a =>
    let name := "  " ++ a.entryName
    if nextLine then name ++ "\n" ++ "".pushn ' ' 10 ++ a.helpText
    else
      let pad := (if a.isPositional || a.long.isSome then longest + 2 else longest + 6) - a.display.length
      name.pushn ' ' pad ++ a.helpText

/-- The entries of the subcommands section. -/
def commandEntries (cs : List Command) : List String :=
  let longest := cs.foldl (fun w c => max w c.name.length) 2
  let about := fun (c : Command) => c.about.getD ""
  let nextLine := cs.any fun c => overflows (longest + 4) (about c).length
  cs.map fun c =>
    if nextLine then "  " ++ c.name ++ "\n" ++ "".pushn ' ' 10 ++ about c
    else ("  " ++ c.name).pushn ' ' (longest + 2 - c.name.length) ++ about c

/-- The order of a command's switches in its help: its own in order, the built-in ones last,
help before version. -/
def switchOrder (c : Command) : List Arg :=
  c.switches.filter (·.isOrdinaryOption) ++ c.switches.filter (!·.isOrdinaryOption)

/-- The sections of a help text, each a heading and its entries. -/
def Placed.sections (p : Placed) : List (String × List String) :=
  let c := p.command
  [("Commands", commandEntries c.allSubcommands), ("Arguments", argEntries c.positionals),
   ("Options", argEntries (switchOrder c))].filter (!·.2.isEmpty)

/-- The help text of a command, ending in a line break. -/
def Placed.help (p : Placed) : String :=
  let head := (p.command.about.map (· ++ "\n\n")).getD ""
  let body := "\n\n".intercalate (p.sections.map fun (h, es) => h ++ ":\n" ++ "\n".intercalate es)
  head ++ "Usage: " ++ p.usage [] ++ (if body.isEmpty then "" else "\n\n" ++ body) ++ "\n"

/-- The version line of a command. -/
def Placed.versionLine (p : Placed) : String :=
  p.displayName ++ " " ++ (p.command.version.getD "") ++ "\n"

end CausalProfiler.CommandLine
