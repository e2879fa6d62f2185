import RouteScaffold.Command.Run
import RouteScaffold.Log.Record

/-!
The program as a whole, from its arguments and environment to its exit code.
-/

namespace RouteScaffold

/-- How a run of the program ends. -/
inductive Ending where
  | done
  /-- The command line names no command to run. -/
  | misused (fault : UsageFault)
  | failed (fault : RunFault)
  deriving DecidableEq, Repr

namespace Ending

def exitCode : Ending → Nat
  | .done => 0
  | .misused fault => fault.exitCode
  | .failed _ => 1

end Ending

/-- The line that answers a question for the version. -/
def versionLine : String := "routegen 0.1.0-alpha.1"

variable {m : Type → Type} [Monad m] [Host m]

/-- Runs the command of a command line. -/
def runProgram (env : Environment) (words : List String) : m Ending := do
  match CommandLine.parse env words with
  | .error .version => do
    Host.printLine versionLine
    pure (.misused .version)
  | .error fault => pure (.misused fault)
  | .ok command =>
    match ← command.run.run with
    | .ok () => pure .done
    | .error fault => pure (.failed fault)

/-- The run of the program on a desk. -/
def Desk.runProgram (desk : Desk) (env : Environment) (words : List String) : Ending × Desk :=
  (RouteScaffold.runProgram env words : StateM Desk Ending).run desk

end RouteScaffold
