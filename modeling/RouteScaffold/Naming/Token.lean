import RouteScaffold.Config
import RouteScaffold.Graph

/-!
Names derived from a handler token.

The base of a token is what is left when the blanks around it and one `handler` at its end, in any
case, are taken off. All other names of a route are built from its base.
-/

namespace RouteScaffold.Naming

def handlerSuffix : List Char := ['h', 'a', 'n', 'd', 'l', 'e', 'r']

/-- The text in front of a final `handler` in any case. -/
def stripHandler? (token : List Char) : Option (List Char) :=
  let cut := token.length - handlerSuffix.length
  if (token.drop cut).map Char.toLower == handlerSuffix then some (token.take cut) else none

/-- The base of a token without blanks around it. -/
def baseOfToken (token : List Char) : Except TokenFault (List Char) :=
  match (stripHandler? token).getD token with
  | [] => .error (if token.isEmpty then .empty else .nothingLeft (String.ofList token))
  | base => .ok base

/-- The base name of a route, or why its token has none. -/
def tokenBase (token : String) : Except TokenFault String :=
  (baseOfToken (Text.trimChars token.toList)).map String.ofList

def handlerName (base : String) : String := base ++ "Handler"

def logicName (base : String) : String := base ++ "Logic"

/-- The action that a route stands for: its base with a capital first letter. -/
def actionName (base : String) : String := Text.title base

end RouteScaffold.Naming

namespace RouteScaffold

/-- How messages name a group: its display name, its folder annotation or its position. -/
def Group.label (group : Group) (index : Nat) (cfg : Config) : String :=
  (group.name <|> group.annotation? cfg.annotations.folder).getD ("#" ++ toString index)

/-- A group with its position in the graph. -/
structure PlacedGroup where
  index : Nat
  group : Group
  deriving DecidableEq

namespace PlacedGroup

def label (placed : PlacedGroup) (cfg : Config) : String :=
  placed.group.label placed.index cfg

def routeRef (placed : PlacedGroup) (cfg : Config) (routeIndex : Nat) (route : Route) : RouteRef :=
  { group := placed.label cfg, route := routeIndex, handler := route.handler }

/-- The base name of a route of the group; a bad token is reported with its place. -/
def baseName (placed : PlacedGroup) (cfg : Config) (routeIndex : Nat) (route : Route) :
    Except Failure String :=
  match Naming.tokenBase route.handler with
  | .ok base => .ok base
  | .error fault => .error (.namingResolution (placed.routeRef cfg routeIndex route) fault)

/-- The routes of the group with their positions. -/
def routes (placed : PlacedGroup) : List (Nat × Route) :=
  placed.group.routes.zipIdx.map fun p => (p.2, p.1)

end PlacedGroup

/-- The groups of the graph with their positions. -/
def RouteGraph.placed (graph : RouteGraph) : List PlacedGroup :=
  graph.groups.zipIdx.map fun p => ⟨p.2, p.1⟩

example : (Naming.tokenBase " findByIDHANDLER ").toOption = some "findByID" := by decide +kernel
example : (Naming.tokenBase "pingHandlerHandler").toOption = some "pingHandler" := by decide +kernel
example : (Naming.tokenBase "Handler").toOption = none := by decide +kernel

end RouteScaffold
