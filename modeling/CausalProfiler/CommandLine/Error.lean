import CausalProfiler.CommandLine.Help
/-!
Why a command line is refused, and the message that says so.

A message is `error: ` and the cause, then the tips (a known name like the one given, then
other advice), then the usage line when the cause concerns the arguments as a whole, then a
pointer to the help.
-/
namespace CausalProfiler.CommandLine

/-- Why a command line is refused. Names of arguments are as `Arg.display` writes them; `usage`
is the usage line to show. -/
inductive UsageError where
  /-- A switch or value that no argument takes; `similar` is a known long switch like it. -/
  | unknownArgument (arg : String) (similar : Option String) (tips : List String) (usage : String)
  /-- A word in the place of a subcommand that is none; `similar` are the subcommands like it. -/
  | unknownSubcommand (name : String) (similar : List String) (tips : List String) (usage : String)
  /-- An option at the end of the line or before another switch, without its value. -/
  | missingValue (arg : String) (choices : List String)
  /-- A value that is none of the names the argument takes. -/
  | invalidChoice (value arg : String) (choices : List String) (similar : Option String)
  /-- A value that cannot be read, and why. -/
  | invalidValue (value arg reason : String)
  /-- An argument given twice that may be given once. -/
  | repeated (arg usage : String)
  /-- Two arguments that may not be given together. -/
  | conflict (arg other usage : String)
  /-- A value attached to a flag. -/
  | unexpectedValue (value arg usage : String)
deriving Repr, DecidableEq

/-- The list of possible values that follows a refused value. -/
def choiceList (choices : List String) : String :=
  if choices.isEmpty then "" else "\n  [possible values: " ++ ", ".intercalate choices ++ "]"

/-- Names quoted and joined, as tips write them. -/
def quotedNames (names : List String) : String := ", ".intercalate (names.map fun n => "'" ++ n ++ "'")

/-- The tip naming known names like the one given. -/
def similarTip (what : String) (names : List String) : String :=
  match names with
  | [] => ""
  | [n] => "\n\n  tip: a similar " ++ what ++ " exists: '" ++ n ++ "'"
  | _ => "\n\n  tip: some similar " ++ what ++ "s exist: " ++ quotedNames names

/-- Further tips, after a tip naming similar names or not. -/
def moreTips (afterSimilar : Bool) (tips : List String) : String :=
  if tips.isEmpty then ""
  else (if afterSimilar then "" else "\n") ++ String.join (tips.map ("\n  tip: " ++ ·))

def usageBlock (usage : String) : String := "\n\nUsage: " ++ usage

/-- The message of an error; `helpHint` is how the command asks for help, if it can. -/
def UsageError.render (e : UsageError) (helpHint : Option String) : String :=
  let body := match e with
    | .unknownArgument arg similar tips usage =>
      "unexpected argument '" ++ arg ++ "' found" ++ similarTip "argument" similar.toList ++
        moreTips similar.isSome tips ++ usageBlock usage
    | .unknownSubcommand name similar tips usage =>
      "unrecognized subcommand '" ++ name ++ "'" ++ similarTip "subcommand" similar ++
        moreTips (!similar.isEmpty) tips ++ usageBlock usage
    | .missingValue arg choices =>
      "a value is required for '" ++ arg ++ "' but none was supplied" ++ choiceList choices
    | .invalidChoice value arg choices similar =>
      "invalid value '" ++ value ++ "' for '" ++ arg ++ "'" ++ choiceList choices ++
        similarTip "value" similar.toList
    | .invalidValue value arg reason => "invalid value '" ++ value ++ "' for '" ++ arg ++ "': " ++ reason
    | .repeated arg usage => "the argument '" ++ arg ++ "' cannot be used multiple times" ++ usageBlock usage
    | .conflict arg other usage =>
      "the argument '" ++ arg ++ "' cannot be used with '" ++ other ++ "'" ++ usageBlock usage
    | .unexpectedValue value arg usage =>
      "unexpected value '" ++ value ++ "' for '" ++ arg ++ "' found; no more were expected" ++
        usageBlock usage
  let hint := match helpHint with
    | some h => "\n\nFor more information, try '" ++ h ++ "'.\n"
    | none => "\n"
  "error: " ++ body ++ hint

end CausalProfiler.CommandLine
