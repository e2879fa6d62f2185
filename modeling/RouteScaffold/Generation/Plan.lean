import RouteScaffold.Generation.Emit

/-!
The plan of a run: all artifacts of a graph in the order in which they are written.

With authorization the denial catalog and the policy table come first; then each group brings its
capability interface, if it has one, and its handlers. No two artifacts of a plan share a path.
-/

namespace RouteScaffold

/-- Artifacts and, in a list of its own, what each of them is made for. -/
structure Listing where
  artifacts : List Artifact := []
  owners : List Owner := []
  deriving DecidableEq, Repr

/-- An artifact with what it is made for. -/
structure OwnedArtifact where
  artifact : Artifact
  owner : Owner
  deriving DecidableEq, Repr

/-- The artifacts with the owners at the same positions. -/
def Listing.owned (listing : Listing) : List OwnedArtifact :=
  List.zipWith OwnedArtifact.mk listing.artifacts listing.owners

/-- The capability interface of a group, if it gets one, and its handlers. -/
def PlacedGroup.listing (placed : PlacedGroup) (cfg : Config) (naming : Naming.NamingFormat)
    (renderer : Renderer) : Except Failure Listing := do
  let auth ← (if cfg.auth then placed.emitAuth? cfg renderer else .ok none)
  let handlers ← placed.emitHandlers cfg naming renderer
  .ok
    { artifacts := auth.toList ++ handlers
      owners := auth.toList.map (fun _ => .authInterface (placed.label cfg)) ++
        placed.routes.map fun (routeIndex, route) => .route (placed.routeRef cfg routeIndex route) }

namespace RouteGraph

/-- The artifacts that belong to the graph as a whole. -/
def sharedListing (graph : RouteGraph) (cfg : Config) (renderer : Renderer) :
    Except Failure Listing := do
  if cfg.auth then
    let catalog ← graph.emitErrorCatalog cfg renderer
    let policy ← graph.emitPolicyTable cfg
    .ok { artifacts := [catalog, policy], owners := [.errorCatalog, .policyTable] }
  else .ok {}

/-- All artifacts, before their paths are compared. -/
def listing (graph : RouteGraph) (cfg : Config) (naming : Naming.NamingFormat)
    (renderer : Renderer) : Except Failure Listing := do
  let shared ← graph.sharedListing cfg renderer
  let groups ← graph.placed.mapM (·.listing cfg naming renderer)
  .ok
    { artifacts := shared.artifacts ++ groups.flatMap (·.artifacts)
      owners := shared.owners ++ groups.flatMap (·.owners) }

end RouteGraph

/-- The first artifact whose path is taken by an earlier one or stands in `seen`. -/
def collision? (seen : List (List Component × Owner)) : List OwnedArtifact → Option Failure
  | [] => none
  | owned :: rest =>
    let place := owned.artifact.path.components
    match seen.lookup place with
    | some first => some (.artifactCollision owned.artifact.path first owned.owner)
    | none => collision? ((place, owned.owner) :: seen) rest

/-- The artifacts of a graph in emission order. -/
def RouteGraph.plan (graph : RouteGraph) (cfg : Config) (registry : TemplateRegistry)
    (engine : Template.Engine := .standard) : Except Failure (List Artifact) := do
  let naming ← cfg.naming
  let renderer ← registry.compile engine
  let listing ← graph.listing cfg naming renderer
  match collision? [] listing.owned with
  | some failure => .error failure
  | none => .ok listing.artifacts

end RouteScaffold
