import RouteScaffold.SortedMap
import RouteScaffold.Text.Blank

/-!
The route graph: groups of routes, each with annotations.

The order of groups and routes is part of the graph: it decides error codes and the order of the
generated files.
-/

namespace RouteScaffold

/-- Named notes on a group or a route. -/
abbrev Annotations := SortedMap String String

/-- The trimmed value of an annotation; a blank value counts as absent. -/
def Annotations.find? (annotations : Annotations) (key : String) : Option String :=
  ((annotations.get? key).map Text.trim).filter (· ≠ "")

structure Route where
  handler : String
  requestType : String := ""
  responseType : String := ""
  doc : String := ""
  annotations : Annotations := .empty
  deriving DecidableEq

namespace Route

def annotation? (route : Route) (key : String) : Option String :=
  route.annotations.find? key

def hasRequest (route : Route) : Bool := Text.trim route.requestType ≠ ""

def hasResponse (route : Route) : Bool := Text.trim route.responseType ≠ ""

def hasDoc (route : Route) : Bool := Text.trim route.doc ≠ ""

def withAnnotation (route : Route) (key value : String) : Route :=
  { route with annotations := route.annotations.insert key value }

end Route

structure Group where
  /-- A display name, used only to say where an error lies. -/
  name : Option String := none
  annotations : Annotations := .empty
  routes : List Route := []
  deriving DecidableEq

namespace Group

def annotation? (group : Group) (key : String) : Option String :=
  group.annotations.find? key

def withAnnotation (group : Group) (key value : String) : Group :=
  { group with annotations := group.annotations.insert key value }

end Group

structure RouteGraph where
  groups : List Group := []
  deriving DecidableEq

def RouteGraph.routeCount (graph : RouteGraph) : Nat :=
  graph.groups.foldl (fun count group => count + group.routes.length) 0

theorem Annotations.find?_ne_empty {annotations : Annotations} {key value : String}
    (h : annotations.find? key = some value) : value ≠ "" := by
  have hfilter := (Option.filter_eq_some_iff.1 h).2
  simpa using hfilter

end RouteScaffold
