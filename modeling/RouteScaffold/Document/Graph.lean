import RouteScaffold.Document.Record
import RouteScaffold.Graph

/-!
The route graph as a document.

Only the handler of a route has to be given. The request and response types have a short spelling
too; the long one is written.
-/

namespace RouteScaffold

namespace Annotations

def entry? (field : Datum × Datum) : Option (String × String) := do
  let key ← field.1.text?
  let value ← field.2.text?
  some (key, value)

/-- The annotations of a record of texts; of two with one key the later counts. -/
def ofDatum? (d : Datum) : Option Annotations :=
  (d.fields?.bind (·.mapM entry?)).map SortedMap.ofList

def datum (annotations : Annotations) : Datum :=
  .record (annotations.entries.map fun e => (.text e.1, .text e.2))

end Annotations

namespace Route

def ofDatum? (dialect : Dialect) (d : Datum) : Option Route := do
  let record ← d.record? dialect 5
  let handler ← record.require 0 ["handler"] Datum.text?
  let requestType ← record.read 1 ["request_type", "request"] "" Datum.text?
  let responseType ← record.read 2 ["response_type", "response"] "" Datum.text?
  let doc ← record.read 3 ["doc"] "" Datum.text?
  let annotations ← record.read 4 ["annotations"] .empty Annotations.ofDatum?
  some { handler, requestType, responseType, doc, annotations }

def datum (route : Route) : Datum :=
  .record
    [(.text "handler", .text route.handler),
     (.text "request_type", .text route.requestType),
     (.text "response_type", .text route.responseType),
     (.text "doc", .text route.doc),
     (.text "annotations", route.annotations.datum)]

end Route

/-- The list of the things that the items of a list decode to. -/
def Datum.listOf? {α : Type} (decode : Datum → Option α) (d : Datum) : Option (List α) :=
  d.items?.bind (·.mapM decode)

namespace Group

def ofDatum? (dialect : Dialect) (d : Datum) : Option Group := do
  let record ← d.record? dialect 3
  let name ← record.read 0 ["name"] none Datum.optionalText?
  let annotations ← record.read 1 ["annotations"] .empty Annotations.ofDatum?
  let routes ← record.read 2 ["routes"] [] (Datum.listOf? (Route.ofDatum? dialect))
  some { name, annotations, routes }

/-- A group as a record; a group without a name has no such field. -/
def datum (group : Group) : Datum :=
  .record
    ((group.name.toList.map fun name => (.text "name", .text name)) ++
      [(.text "annotations", group.annotations.datum),
       (.text "routes", .list (group.routes.map Route.datum))])

end Group

namespace RouteGraph

def ofDatum? (dialect : Dialect) (d : Datum) : Option RouteGraph := do
  let record ← d.record? dialect 1
  let groups ← record.read 0 ["groups"] [] (Datum.listOf? (Group.ofDatum? dialect))
  some { groups }

def datum (graph : RouteGraph) : Datum :=
  .record [(.text "groups", .list (graph.groups.map Group.datum))]

end RouteGraph

end RouteScaffold
