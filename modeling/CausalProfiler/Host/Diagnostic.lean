/-!
Diagnostics a profiled process writes to its error stream. Warnings and fatal errors are always
written; informational lines only in verbose mode. The sorted summary of a process's diagnostics
leaves the informational lines out. A kernel thread
id is not known to this model, so a message naming a thread writes `<tid>` for it; a file in
the process's scratch directory is written under `$SCRATCH`.
-/
namespace CausalProfiler.Host

inductive Diagnostic where
  | warning (text : String)
  | fatal (text : String)
  | info (text : String)
deriving Repr, DecidableEq

def Diagnostic.line : Diagnostic → String
  | .warning text => "[causa] warning: " ++ text
  | .fatal text => "[causa] fatal: " ++ text
  | .info text => "[causa] " ++ text

def Diagnostic.isInfo : Diagnostic → Bool
  | .info _ => true
  | _ => false

/-- The lines of some diagnostics other than informational ones, in byte order. -/
def sortedLines (ds : List Diagnostic) : List String :=
  ((ds.filter (!·.isInfo)).map Diagnostic.line).mergeSort fun a b => decide (a ≤ b)

/-- The placeholder for a thread id in messages. -/
def threadPlaceholder : String := "<tid>"

/-- The scratch directory a process runs in. -/
def scratch : String := "$SCRATCH"

end CausalProfiler.Host
