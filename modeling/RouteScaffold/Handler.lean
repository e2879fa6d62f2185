import RouteScaffold.Naming.Placement

/-!
The plan of a handler file: where it goes and what its template is given.
-/

namespace RouteScaffold

/-- One line of a route's documentation as a comment line. -/
def docLine (line : List Char) : List Char :=
  Text.dropEndWhile Text.isBlank
    (['/', '/', ' '] ++ Text.trimChars (Text.stripWhile (· == '"') (Text.trimChars line)))

/-- The documentation of a route as comment lines; blank documentation has none. -/
def formatDoc (doc : String) : String :=
  match Text.trimChars doc.toList with
  | [] => ""
  | text => String.ofList (['\n'].intercalate ((text.splitOn '\n').map docLine))

structure HandlerData where
  pkgName : String
  imports : List String
  handlerName : String
  /-- The request type with a capital first letter; empty when the route has none. -/
  requestType : String
  logicPackage : String
  logicType : String
  call : String
  hasRequest : Bool
  hasResponse : Bool
  hasDoc : Bool
  doc : String
  deriving DecidableEq, Repr

structure HandlerPlan where
  folder : String
  fileName : String
  data : HandlerData
  deriving DecidableEq, Repr

def HandlerPlan.path (plan : HandlerPlan) : Path :=
  (Path.mk plan.folder).join ⟨plan.fileName⟩

namespace Naming

/-- The identifier of a handler: exported when it stands in a folder of its own. -/
def handlerIdent (base : String) (folder : List (List Char)) : String :=
  if folder.isEmpty then handlerName base else Text.title (handlerName base)

/-- The plan of a route with the given base name. -/
def handlerPlan (cfg : Config) (naming : NamingFormat) (group : Group) (route : Route)
    (base : String) : HandlerPlan :=
  let segments := folderSegments group route cfg
  let folder := handlerFolder group route cfg
  let pkgName := leafSegment folder
  let handler := handlerIdent base segments
  { folder
    fileName := naming.apply handler ++ ".go"
    data :=
      { pkgName
        imports := handlerImports group route cfg
        handlerName := handler
        requestType := Text.title (Text.trim route.requestType)
        logicPackage := if segments.isEmpty then defaultLogicPackage else pkgName
        logicType := Text.title (logicName base)
        call := Text.title base
        hasRequest := route.hasRequest
        hasResponse := route.hasResponse
        hasDoc := route.hasDoc
        doc := formatDoc route.doc } }

end Naming

namespace PlacedGroup

def handlerPlan (placed : PlacedGroup) (cfg : Config) (naming : Naming.NamingFormat)
    (routeIndex : Nat) (route : Route) : Except Failure HandlerPlan := do
  let base ← placed.baseName cfg routeIndex route
  .ok (Naming.handlerPlan cfg naming placed.group route base)

def handlerPlans (placed : PlacedGroup) (cfg : Config) (naming : Naming.NamingFormat) :
    Except Failure (List HandlerPlan) :=
  placed.routes.mapM fun (routeIndex, route) => placed.handlerPlan cfg naming routeIndex route

end PlacedGroup

/-- The plans of all handlers in graph order. -/
def RouteGraph.handlerPlans (graph : RouteGraph) (cfg : Config) (naming : Naming.NamingFormat) :
    Except Failure (List HandlerPlan) := do
  let plans ← graph.placed.mapM (·.handlerPlans cfg naming)
  .ok plans.flatten

example : formatDoc "  \"list\"\n\n second " = "// list\n//\n// second" := by decide +kernel

end RouteScaffold
