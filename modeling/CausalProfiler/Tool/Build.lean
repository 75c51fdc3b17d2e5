import CausalProfiler.Tool.Project
import CausalProfiler.CommandLine.Parse
/-!
How `cargo build` reads the words that `cargo causa run` gives it: `--release` when asked, then
`--bin` or `--example` and the target's name. The target options take their value only when it
does not look like a switch, so a name such as `--x` or `-app` is read as a switch of its own.
An unknown switch is refused, a long one with the most similar known long name as a tip; a
switch that needs a value and is given none is refused; a few hidden switches exist only to
point to the right one. Otherwise the target option is left without a value, and cargo lists the
targets it could have named instead of building.
-/
namespace CausalProfiler.Tool

open CommandLine

/-- What a switch of `cargo build` takes. -/
inductive SwitchValue where
  /-- Nothing: the switch is a flag. -/
  | flag
  /-- One value, which must be given; `choices` are the values allowed, if only some are. -/
  | required (name : String) (choices : List String)
  /-- One value, which may be left out. -/
  | optional (name : String)
  /-- Nothing: the switch is refused with a tip, which names a similar switch when `similar`. -/
  | pointer (tip : String) (similar : Bool)
deriving Repr, DecidableEq

/-- A switch of `cargo build`, with its long names (the name, then its aliases) and its
short name. -/
structure BuildSwitch where
  id : String
  longs : List String
  short : Option Char := none
  value : SwitchValue := .flag
deriving Repr, DecidableEq

/-- How messages name a switch: its long name, else its short name, and its value. -/
def BuildSwitch.display (s : BuildSwitch) : String :=
  let name := match s.longs, s.short with
    | l :: _, _ => "--" ++ l
    | [], some c => "-" ++ c.toString
    | [], none => ""
  match s.value with
  | .required v _ => name ++ " <" ++ v ++ ">"
  | .optional v => name ++ " [<" ++ v ++ ">]"
  | _ => name

/-- The switches of `cargo build` in the order the command knows them: its own, then those every
cargo command shares, then the request for help. -/
def buildSwitches : List BuildSwitch :=
  let flag := fun (id : String) => ({ id := id, longs := [id] } : BuildSwitch)
  let needs := fun (id name : String) => ({ id := id, longs := [id], value := .required name [] } : BuildSwitch)
  [flag "future-incompat-report", needs "message-format" "FMT",
   { id := "silent", longs := ["silent"], short := some 's', value := .pointer "--quiet" true },
   { id := "package", longs := ["package"], short := some 'p', value := .optional "SPEC" },
   flag "workspace", needs "exclude" "SPEC",
   { id := "short-exclude", longs := [], short := some 'x', value := .pointer "--exclude" true },
   flag "all", flag "lib", flag "bins",
   { id := "bin", longs := ["bin"], value := .optional "NAME" }, flag "examples",
   { id := "example", longs := ["example"], value := .optional "NAME" }, flag "tests",
   { id := "test", longs := ["test"], value := .optional "NAME" }, flag "benches",
   { id := "bench", longs := ["bench"], value := .optional "NAME" }, flag "all-targets",
   { id := "features", longs := ["features"], short := some 'F', value := .required "FEATURES" [] },
   flag "all-features", flag "no-default-features",
   { id := "release", longs := ["release"], short := some 'r' },
   { id := "debug", longs := ["debug"], value := .pointer
       "\x60--debug\x60 is the default for \x60cargo build\x60; instead \x60--release\x60 is supported"
       false },
   needs "profile" "PROFILE-NAME",
   { id := "jobs", longs := ["jobs"], short := some 'j', value := .required "N" [] },
   flag "keep-going", needs "target" "TRIPLE", needs "target-dir" "DIRECTORY",
   { id := "artifact-dir", longs := ["artifact-dir", "out-dir"], value := .required "PATH" [] },
   flag "build-plan", flag "unit-graph",
   { id := "timings", longs := ["timings"], value := .optional "FMTS" },
   needs "manifest-path" "PATH", needs "lockfile-path" "PATH", flag "ignore-rust-version",
   { id := "verbose", longs := ["verbose"], short := some 'v' },
   { id := "quiet", longs := ["quiet"], short := some 'q' },
   { id := "color", longs := ["color"], value := .required "WHEN" ["auto", "always", "never"] },
   flag "locked", flag "offline", flag "frozen",
   { id := "short-config", longs := [], short := some 'c', value := .pointer "--config" true },
   needs "config" "KEY=VALUE|PATH",
   { id := "short-unstable", longs := [], short := some 'z', value := .pointer "-Z" true },
   { id := "unstable", longs := [], short := some 'Z', value := .required "FLAG" [] },
   { id := "help", longs := ["help"], short := some 'h' }]

/-- Every long name `cargo build` knows, in order. -/
def buildLongNames : List String := buildSwitches.flatMap (·.longs)

def findBuildLong? (name : String) : Option BuildSwitch := buildSwitches.find? (·.longs.contains name)

def findBuildShort? (c : Char) : Option BuildSwitch := buildSwitches.find? (·.short == some c)

/-- The usage line of an error: the switches given so far, or the summary of all of them. -/
def buildUsage (given : List BuildSwitch) : String :=
  if given.isEmpty then "cargo build [OPTIONS]"
  else "cargo build " ++ " ".intercalate (given.map (·.display))

/-- The message of a refused `cargo build` line, as lines. -/
def refusal (e : UsageError) : List String := Text.linesOf (e.render (some "--help"))

/-- A hidden switch's refusal. -/
def pointerRefusal (s : BuildSwitch) (tip : String) (similar : Bool) : List String :=
  refusal (if similar then .unknownArgument s.display (some tip) [] (buildUsage [])
    else .unknownArgument s.display none [tip] (buildUsage []))

/-- How `cargo build` reads the value after a target option: the name it gives the option, or
none when it reads the value as a switch and leaves the option without one (with the options
left without a value, in the order given), or the error lines of a refused line. `given` are the
switches before the value. -/
def readTargetValue (given : List BuildSwitch) (value : String) :
    Except (List String) (Option (List String)) :=
  let bare := given.filter fun s => match s.value with | .optional _ => true | _ => false
  let empty := bare.map (·.id)
  if !value.startsWith "-" || value = "-" then .ok none
  else if value = "--" then .ok (some empty)
  else if value.startsWith "--" then
    let body := value.drop 2
    let name := (body.takeWhile (· ≠ '=')).toString
    let attached : Option String := if body.contains '=' then some ((body.dropWhile (· ≠ '=')).drop 1).toString else none
    match findBuildLong? name with
    | none =>
      let similar := mostSimilar? name buildLongNames
      let shown := given ++ (similar.bind findBuildLong?).toList
      .error (refusal (.unknownArgument ("--" ++ name) (similar.map ("--" ++ ·)) [] (buildUsage shown)))
    | some s =>
      match s.value, attached with
      | .pointer tip similar, _ => .error (pointerRefusal s tip similar)
      | .flag, some v => .error (refusal (.unexpectedValue v s.display (buildUsage given)))
      | .flag, none => .ok (some empty)
      | .required _ choices, some v =>
        if choices.isEmpty || choices.contains v then .ok (some empty)
        else .error (refusal (.invalidChoice v s.display choices (mostSimilar? v choices)))
      | .required _ choices, none => .error (refusal (.missingValue s.display choices))
      | .optional _, some _ => .ok (some empty)
      | .optional _, none => .ok (some (empty ++ [s.id]))
  else readCluster empty (value.toList.drop 1)
where
  /-- Reads a cluster of short switches. -/
  readCluster (empty : List String) : List Char → Except (List String) (Option (List String))
    | [] => .ok (some empty)
    | c :: rest =>
      match findBuildShort? c with
      | none => .error (refusal (.unknownArgument ("-" ++ c.toString) none [] (buildUsage [])))
      | some s =>
        let attached := match rest with
          | '=' :: more => more
          | _ => rest
        match s.value with
        | .pointer tip similar => .error (pointerRefusal s tip similar)
        | .flag => readCluster empty rest
        | .required _ choices =>
          if attached.isEmpty then .error (refusal (.missingValue s.display choices)) else .ok (some empty)
        | .optional _ => .ok (some (if attached.isEmpty then empty ++ [s.id] else empty))

/-- The plural by which cargo lists the targets a target option may name. -/
def listedKind (id : String) : String :=
  if id = "bin" then "binaries" else if id = "example" then "examples"
  else if id = "test" then "test targets" else "bench targets"

/-- Cargo's answer to an option left without a value: the targets or packages it could name. -/
def listing (p : Project) (id : String) : List String :=
  if id = "package" then
    ["error: \"--package <SPEC>\" requires a SPEC format value, which can be any package ID " ++
      "specifier in the dependency graph.",
     "Run \x60cargo help pkgid\x60 for more information about SPEC format.", "",
     "Possible packages/workspace members:", "    " ++ p.package, ""]
  else
    let names := if id = "bin" then (p.targetsOf .binary).map (·.name)
      else if id = "example" then (p.targetsOf .sample).map (·.name) else []
    let sorted := names.mergeSort fun a b => decide (a ≤ b)
    ["error: \"--" ++ id ++ "\" takes one argument."] ++
      (if sorted.isEmpty then ["No " ++ listedKind id ++ " available."]
       else ["Available " ++ listedKind id ++ ":"] ++ sorted.map ("    " ++ ·)) ++ [""]

/-- The order in which cargo checks the options left without a value. -/
def listingOrder : List String := ["package", "example", "bin", "bench", "test"]

/-- Runs `cargo build` for a selection: reads its words, then builds. -/
def Project.buildFor (p : Project) (release : Bool) (sel : Selection) : Except (List String) Unit :=
  match sel with
  | .all => p.build sel
  | .named kind name =>
    let target := (buildSwitches.find? (·.id == kind.word)).toList
    let given := (if release then (findBuildLong? "release").toList else []) ++ target
    match readTargetValue given name with
    | .error lines => .error lines
    | .ok none => p.build sel
    | .ok (some empty) =>
      match listingOrder.find? empty.contains with
      | some id => .error (listing p id)
      | none => p.build sel

end CausalProfiler.Tool
