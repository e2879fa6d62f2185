import RouteScaffold.Authorization.Policy
import RouteScaffold.Template.Data
import RouteScaffold.Template.Registry

/-!
The artifacts of a graph, each rendered on its own.
-/

namespace RouteScaffold

def errorCatalogPath : Path := (Path.mk Naming.authRoot).join ⟨"error.go"⟩

def policyTablePath : Path := (Path.mk Naming.policyRoot).join ⟨"auth_policy.csv"⟩

def Subject.authPath (subject : Subject) : Path :=
  (Path.mk Naming.authRoot).join ⟨subject.snake ++ ".go"⟩

/-- The denial catalog; it is written even when no group bears an authorization, so that an old one
is replaced. -/
def RouteGraph.emitErrorCatalog (graph : RouteGraph) (cfg : Config) (renderer : Renderer) :
    Except Failure Artifact := do
  let catalog ← graph.denialCatalog cfg
  renderer.render .authError Template.BuiltIn.authErrorName errorCatalogPath catalog.scope

def RouteGraph.emitPolicyTable (graph : RouteGraph) (cfg : Config) : Except Failure Artifact := do
  let rows ← graph.policyRows cfg
  .ok { kind := .policy, path := policyTablePath, contents := PolicyRow.table rows }

/-- The capability interface of a guarded group. -/
def GuardedGroup.emitAuth (guarded : GuardedGroup) (cfg : Config) (renderer : Renderer) :
    Except Failure Artifact := do
  let face ← guarded.authInterface cfg
  renderer.render .auth Template.BuiltIn.authName guarded.subject.authPath face.scope

namespace PlacedGroup

/-- The capability interface of a group, if it bears an authorization. -/
def emitAuth? (placed : PlacedGroup) (cfg : Config) (renderer : Renderer) :
    Except Failure (Option Artifact) :=
  match placed.guarded? cfg with
  | none => .ok none
  | some guarded => (guarded.emitAuth cfg renderer).map some

def emitHandler (placed : PlacedGroup) (cfg : Config) (naming : Naming.NamingFormat)
    (renderer : Renderer) (routeIndex : Nat) (route : Route) : Except Failure Artifact := do
  let plan ← placed.handlerPlan cfg naming routeIndex route
  renderer.render .handler Template.BuiltIn.handlerName plan.path plan.data.scope

/-- The handlers of a group in route order, up to the first that fails. -/
def emitHandlers (placed : PlacedGroup) (cfg : Config) (naming : Naming.NamingFormat)
    (renderer : Renderer) : Except Failure (List Artifact) :=
  placed.routes.mapM fun (routeIndex, route) =>
    placed.emitHandler cfg naming renderer routeIndex route

end PlacedGroup

end RouteScaffold
