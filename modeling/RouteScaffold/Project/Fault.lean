import RouteScaffold.Failure

/-!
What stops a run as a whole: what was being done, and the failure below it.
-/

namespace RouteScaffold

inductive GraphFormat where
  | yaml
  | json
  deriving DecidableEq, Repr

def GraphFormat.label : GraphFormat → String
  | .yaml => "YAML"
  | .json => "JSON"

inductive RunFault where
  | graphUnread (path : Path) (fault : IoFault)
  | graphMalformed (format : GraphFormat) (path : Path)
  | configUnread (path : Path) (fault : IoFault)
  | configMalformed (path : Path)
  | configMissing (path : Path)
  | configInvalid (failure : Failure)
  | templatesUnread (failure : Failure)
  | dryRunFailed (failure : Failure)
  | generationFailed (output : Path) (failure : Failure)
  /-- The names of a graph that is only shown cannot be derived. -/
  | underivable (failure : Failure)
  deriving DecidableEq, Repr

namespace RunFault

/-- What was being done, where that is told apart from the failure itself. -/
def context? : RunFault → Option String
  | .graphUnread path _ => some ("Failed to read route graph: " ++ path.text)
  | .graphMalformed format path =>
    some ("Failed to parse " ++ format.label ++ " route graph: " ++ path.text)
  | .configUnread path _ => some ("Failed to read config: " ++ path.text)
  | .configMalformed path => some ("Failed to parse config: " ++ path.text)
  | .configMissing path => some ("Config file not found: " ++ path.text)
  | .configInvalid _ => some "Invalid generator configuration"
  | .templatesUnread _ => some "Failed to load templates"
  | .dryRunFailed _ => some "Generation failed"
  | .generationFailed output _ => some ("Generation into " ++ output.text ++ " failed")
  | .underivable _ => none

/-- The failure of the generator that stopped the run, if it was one. -/
def failure? : RunFault → Option Failure
  | .configInvalid failure | .templatesUnread failure | .dryRunFailed failure
  | .generationFailed _ failure | .underivable failure => some failure
  | _ => none

/-- The messages from the outermost inwards. -/
def messages (fault : RunFault) (describe : Cause → String) : List String :=
  fault.context?.toList ++ fault.failure?.toList.map (·.messageWith describe)

end RunFault

end RouteScaffold
