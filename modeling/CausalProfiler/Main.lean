import CausalProfiler.Tool.Invocation
/-!
The `cargo causa` command. It reads its command line, prints help, the version or why the line
is refused, and runs `report` on a log file. Building a target needs a `cargo` process, which
this program does not start, so `run` fails as it does where `cargo` cannot be found.
-/
namespace CausalProfiler.Tool

/-- The text of a file, or why it cannot be read. -/
def readText (path : String) : IO (Except String String) := do
  try
    pure (.ok (← IO.FS.readFile path))
  catch e =>
    match e with
    | .inappropriateType .. => pure (.error Host.OpenError.isDirectory.message)
    | _ => pure (.error Host.OpenError.notFound.message)

/-- What `run` shows when `cargo` cannot be started. -/
def cargoMissing : Answer :=
  .failure "failed to run cargo build" Host.OpenError.notFound.message

/-- Prints an answer and gives its exit status. -/
def Answer.print (a : Answer) : IO UInt32 := do
  IO.print a.stdout
  for line in a.stderr do
    IO.eprintln line
  pure a.status.toUInt32

end CausalProfiler.Tool

/-- Runs `cargo causa` with the words cargo passes it, `causa` first. -/
def main (args : List String) : IO UInt32 := do
  match CausalProfiler.Tool.Request.ofWords args with
  | .answered a => a.print
  | .report o => (CausalProfiler.Tool.reportOf o (← CausalProfiler.Tool.readText o.input)).print
  | .run _ => CausalProfiler.Tool.cargoMissing.print
