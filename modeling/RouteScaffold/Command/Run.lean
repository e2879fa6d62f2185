import RouteScaffold.Command.Arguments
import RouteScaffold.Generation.Disk

/-!
Running a command: generating files, listing those that would be written, or showing what is derived
from a graph.
-/

namespace RouteScaffold

variable {m : Type → Type} [Monad m] [Host m]

/-- Prints a line. -/
def say (line : String) : ExceptT RunFault m Unit :=
  ExceptT.lift (Host.printLine line)

def sayAll (lines : List String) : ExceptT RunFault m Unit :=
  lines.forM say

/-- A sink that stores nothing. -/
def discard : Sink m := fun _ => pure ()

/-- The text with blanks behind it, to a width of `width` characters. -/
def padTo (width : Nat) (s : String) : String :=
  s ++ String.ofList (List.replicate (width - s.length) ' ')

def HandlerPlan.line (plan : HandlerPlan) : String :=
  "  " ++ padTo 24 plan.data.handlerName ++ " " ++ plan.path.text

def DenialGroup.lines (group : DenialGroup) : List String :=
  ("  " ++ group.subject ++ " (" ++ group.policyKey ++ "::*)") ::
    group.entries.map fun entry => "    " ++ toString entry.code ++ " " ++ entry.name

/-- A derived value, or the fault of a run that shows it. -/
def derived {α : Type} (result : Except Failure α) : ExceptT RunFault m α :=
  ExceptT.adapt RunFault.underivable (ExceptT.mk (pure result))

/-- Lists the files that generation would write. -/
def runDry (graph : RouteGraph) (cfg : Config) (registry : TemplateRegistry) (output : Path) :
    ExceptT RunFault m Unit := do
  let report ← ExceptT.adapt RunFault.dryRunFailed (graph.generateLogged cfg registry discard)
  sayAll (report.paths.map fun path => "would write " ++ (output.join path).text)
  say ("🔍 Dry run: " ++ toString report.total ++ " files, nothing written")

def runGenerate (graph : RouteGraph) (cfg : Config) (registry : TemplateRegistry) (output : Path) :
    ExceptT RunFault m Unit := do
  let report ← ExceptT.adapt (RunFault.generationFailed output)
    (graph.generateLogged cfg registry (diskSink output))
  say ("✅ Generated " ++ toString report.handlers ++ " handlers, " ++
    toString report.authInterfaces ++ " auth interfaces in " ++ output.text)

/-- Shows the error codes and the policy rows of a graph. -/
def showAuthorization (graph : RouteGraph) (cfg : Config) : ExceptT RunFault m Unit := do
  say "\nError codes:"
  let groups ← derived (graph.denialGroups cfg)
  sayAll (groups.flatMap DenialGroup.lines)
  say "\nPolicy:"
  let rows ← derived (graph.policyRows cfg)
  sayAll (rows.map fun row => "  " ++ row.text)

/-- Shows what is derived from a graph, part by part, up to the first that cannot be derived. -/
def showDerived (graph : RouteGraph) (cfg : Config) (source : Path) : ExceptT RunFault m Unit := do
  let naming ← derived cfg.naming
  say ("📄 " ++ source.text ++ " (" ++ toString graph.groups.length ++ " groups, " ++
    toString graph.routeCount ++ " routes)")
  say "\nHandlers:"
  let plans ← derived (graph.handlerPlans cfg naming)
  sayAll (plans.map HandlerPlan.line)
  if cfg.auth then showAuthorization graph cfg
  else say "\nAuthorization generation disabled"

def Command.run : Command → ExceptT RunFault m Unit
  | .generate args output dryRun => do
    let (graph, cfg) ← args.load
    let registry ← ExceptT.adapt RunFault.templatesUnread (TemplateRegistry.load cfg.templateDir)
    if dryRun then runDry graph cfg registry output
    else runGenerate graph cfg registry output
  | .inspect args => do
    let (graph, cfg) ← args.load
    showDerived graph cfg args.graph

end RouteScaffold
