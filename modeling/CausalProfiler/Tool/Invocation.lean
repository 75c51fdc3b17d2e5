import CausalProfiler.Tool.Command
import CausalProfiler.Tool.Build
import CausalProfiler.Report.Text
import CausalProfiler.Report.Document
import CausalProfiler.Report.Csv
import CausalProfiler.Text.Lines
/-!
Running `cargo causa` in a working directory of a package. A refused command line exits with
status 2 and its message; help and the version are printed and exit with 0. `report` prints
the report of a log in the working directory; `run` builds the target, runs it with the
profiler's environment, says how it ended when it failed, and points to the log. A failure of
the subcommand itself exits with status 1 and `Error:`, the context and its cause.
-/
namespace CausalProfiler.Tool

open Host

/-- What the subcommand shows: its exit status, what it printed, and the lines of its error
stream. -/
structure Answer where
  status : Nat
  stdout : String
  stderr : List String

/-- A failure of the subcommand, with its context and cause. -/
def Answer.failure (context cause : String) : Answer :=
  ⟨1, "", ["Error: " ++ context, "", "Caused by:", "    " ++ cause]⟩

/-- Reads a log: its text, or the message of why it cannot be read. A file that is no text does
not read as a log. -/
def readLog (fs : FileSystem) (path : String) : Except String String :=
  match fs.readFile path with
  | .error e => .error e.message
  | .ok (.text t) => .ok t
  | .ok .binary => .error "stream did not contain valid UTF-8"

/-- `cargo causa report` on the text of its log, or on why the log cannot be read: the report
in the asked format. -/
def reportOf (o : ReportOptions) (read : Except String String) : Answer :=
  match read with
  | .error e => .failure ("failed to read " ++ o.input) e
  | .ok text =>
    match Profile.ofLog text with
    | .error e => .failure ("failed to parse " ++ o.input) e.message
    | .ok profile =>
      let r := Report.ofProfile profile o.minPoints o.top
      let out := if o.format = "json" then r.json ++ "\n" else if o.format = "csv" then r.csv else r.text
      ⟨0, out, []⟩

/-- The target `run` asks for: the binary, else the example, else the binary named as the
package. -/
def RunOptions.target (o : RunOptions) (package : String) : TargetKind × String :=
  match o.bin, o.exampleTarget with
  | some b, _ => (.binary, b)
  | none, some e => (.sample, e)
  | none, none => (.binary, package)

/-- `cargo causa run`. -/
def run (p : Project) (files : List (String × String)) (o : RunOptions) : Answer :=
  let selection := match o.bin, o.exampleTarget with
    | some b, _ => Selection.named .binary b
    | none, some e => .named .sample e
    | none, none => .all
  match p.buildFor o.release selection with
  | .error lines => ⟨1, "", lines ++ ["Error: cargo build failed"]⟩
  | .ok () =>
    let (kind, name) := o.target p.package
    let path := p.programPath o.release kind name
    match p.built? kind name with
    | none => ⟨1, "", ["Error: binary not found at " ++ path]⟩
    | some t =>
      let r := p.runProgram t o.release path files o.args o.environment
      let ended := match r.status with
        | .code 0 => []
        | s => [path ++ " exited with " ++ statusText s]
      ⟨0, r.stdout, ["Built: " ++ path] ++ r.stderr ++ ended ++
        ["Profile appended to " ++ o.output ++ "; run \x60cargo causa report " ++ o.output ++
          "\x60 to analyze it."]⟩

/-- What a command line asks of the subcommand: an answer at once, a report or a run. -/
inductive Request where
  | answered (a : Answer)
  | report (o : ReportOptions)
  | run (o : RunOptions)

/-- Reads the words of a command line, `causa` first. -/
def Request.ofWords (words : List String) : Request :=
  match cargoCommand.readLine words with
  | .shown text => .answered ⟨0, text, []⟩
  | .helpOnError text => .answered ⟨2, "", Text.linesOf text⟩
  | .refused message => .answered ⟨2, "", Text.linesOf message⟩
  | .chosen path values =>
    if path = ["causa", "run"] then .run (RunOptions.ofValues values)
    else .report (ReportOptions.ofValues values)

/-- Runs the subcommand with its words in a working directory of a package. -/
def invoke (p : Project) (files : List (String × String)) (words : List String) : Answer :=
  match Request.ofWords words with
  | .answered a => a
  | .report o => reportOf o (readLog (p.withFiles files) o.input)
  | .run o => run p files o

end CausalProfiler.Tool
