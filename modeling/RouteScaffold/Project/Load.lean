import RouteScaffold.Document.Config
import RouteScaffold.Document.Graph
import RouteScaffold.Document.Json
import RouteScaffold.Document.Toml.Root
import RouteScaffold.Document.Yaml.Node
import RouteScaffold.Host
import RouteScaffold.Project.Fault

/-!
Reading the graph and the options of a run from files.
-/

namespace RouteScaffold

namespace GraphFormat

/-- Graphs are YAML in files whose name says so, else JSON. -/
def ofPath (path : Path) : GraphFormat :=
  if path.extension? == some "yaml" || path.extension? == some "yml" then .yaml else .json

/-- The graph that a text writes. -/
def read? (format : GraphFormat) (source : String) : Option RouteGraph :=
  match format with
  | .yaml => (Yaml.parse? source).bind (RouteGraph.ofDatum? { positional := false })
  | .json => (Json.parse? source).bind (RouteGraph.ofDatum? { positional := true })

end GraphFormat

/-- The options that a text writes. -/
def Config.read? (source : String) : Option Config :=
  (Toml.parse? source).bind (Config.ofDatum? { positional := true })

variable {m : Type → Type} [Monad m] [Host m]

def loadGraph (path : Path) : ExceptT RunFault m RouteGraph := do
  let source ← ExceptT.adapt (RunFault.graphUnread path) (Host.readText path)
  let format := GraphFormat.ofPath path
  match format.read? source with
  | none => throw (.graphMalformed format path)
  | some graph =>
    ExceptT.lift (Host.log
      { level := .debug
        target := "routegen::spec::load"
        message := "loaded route graph"
        fields :=
          [("path", .text path.text),
           ("groups", .nat graph.groups.length),
           ("routes", .nat graph.routeCount)] })
    pure graph

/-- The options in a file, if it is there. -/
def loadConfig (path : Path) : ExceptT RunFault m (Option Config) := do
  if ← ExceptT.lift (Host.holds path) then
    let source ← ExceptT.adapt (RunFault.configUnread path) (Host.readText path)
    match Config.read? source with
    | none => throw (.configMalformed path)
    | some cfg => pure (some cfg)
  else pure none

/-- The file beside a graph that holds its options. -/
def configFileName : String := "routegen.toml"

/-- The options file beside a graph, if it is there. -/
def findConfig (graph : Path) : m (Option Path) :=
  match graph.parent? with
  | none => pure none
  | some dir => do
    let path := dir.join ⟨configFileName⟩
    pure (if ← Host.holds path then some path else none)

/-- The options file of a run: a given one, whether it is there or not, else the one beside the
graph. -/
def selectConfig (given : Option Path) (graph : Path) : m (Option Path) :=
  match given with
  | some path => pure (some path)
  | none => findConfig graph

end RouteScaffold
