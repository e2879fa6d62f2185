import RouteScaffold.Generation.Plan
import RouteScaffold.Proofs.Except

/-!
# Artifacts and their owners

A run lists its artifacts and what they are made for in two lists, and puts them together only when it
compares paths. Here both are made together, step by step as the run goes. The two lists of a run are the
columns of that list, so they are equally long and putting them together gives it back.

The main statements are `RouteGraph.map_owned_listing` and `RouteGraph.plan_eq`.
-/

namespace RouteScaffold

namespace Listing

def ofOwned (owned : List OwnedArtifact) : Listing where
  artifacts := owned.map (·.artifact)
  owners := owned.map (·.owner)

theorem owned_ofOwned (owned : List OwnedArtifact) : (ofOwned owned).owned = owned := by
  unfold ofOwned Listing.owned
  rw [List.zipWith_map, List.zipWith_self]
  exact List.map_id _

end Listing

namespace PlacedGroup

variable (placed : PlacedGroup) (cfg : Config) (naming : Naming.NamingFormat) (renderer : Renderer)

/-- The capability interface of the group as a list of at most one artifact. -/
def planAuth : Except Failure (List OwnedArtifact) := do
  if cfg.auth then
    let auth ← placed.emitAuth? cfg renderer
    .ok (auth.toList.map fun artifact => ⟨artifact, .authInterface (placed.label cfg)⟩)
  else .ok []

def planHandlers : Except Failure (List OwnedArtifact) :=
  placed.routes.mapM fun (routeIndex, route) => do
    let artifact ← placed.emitHandler cfg naming renderer routeIndex route
    .ok ⟨artifact, .route (placed.routeRef cfg routeIndex route)⟩

def plan : Except Failure (List OwnedArtifact) := do
  let auth ← placed.planAuth cfg renderer
  let handlers ← placed.planHandlers cfg naming renderer
  .ok (auth ++ handlers)

end PlacedGroup

namespace RouteGraph

variable (graph : RouteGraph) (cfg : Config) (naming : Naming.NamingFormat) (renderer : Renderer)

/-- The artifacts that belong to the graph as a whole. -/
def planShared : Except Failure (List OwnedArtifact) := do
  if cfg.auth then
    let catalog ← graph.emitErrorCatalog cfg renderer
    let policy ← graph.emitPolicyTable cfg
    .ok [⟨catalog, .errorCatalog⟩, ⟨policy, .policyTable⟩]
  else .ok []

/-- All artifacts, before their paths are compared. -/
def planOwned : Except Failure (List OwnedArtifact) := do
  let shared ← graph.planShared cfg renderer
  let groups ← graph.placed.mapM (·.plan cfg naming renderer)
  .ok (shared ++ groups.flatten)

end RouteGraph

section Columns

variable {cfg : Config} {naming : Naming.NamingFormat} {renderer : Renderer}

namespace PlacedGroup

variable {placed : PlacedGroup}

theorem emitHandlers_eq : placed.emitHandlers cfg naming renderer =
    (placed.planHandlers cfg naming renderer).map (List.map (·.artifact)) := by
  unfold planHandlers emitHandlers
  rw [← Except.mapM_map_eq]
  congr 1
  funext ⟨routeIndex, route⟩
  dsimp only
  cases placed.emitHandler cfg naming renderer routeIndex route <;> rfl

theorem map_owner_planHandlers {owned : List OwnedArtifact}
    (h : placed.planHandlers cfg naming renderer = .ok owned) :
    owned.map (·.owner) =
      placed.routes.map fun (routeIndex, route) => .route (placed.routeRef cfg routeIndex route) := by
  refine Except.map_eq_map_of_mapM_eq_ok (fun p entry hentry => ?_) h
  obtain ⟨artifact, -, hentry⟩ := Except.bind_eq_ok_iff.1 hentry
  cases hentry
  rfl

theorem listing_eq_map_plan :
    placed.listing cfg naming renderer = (placed.plan cfg naming renderer).map .ofOwned := by
  have hauth : (if cfg.auth then placed.emitAuth? cfg renderer else .ok none) >>= (fun auth =>
      .ok (auth.toList.map fun artifact => ⟨artifact, .authInterface (placed.label cfg)⟩)) =
        placed.planAuth cfg renderer := by
    unfold planAuth
    split <;> rfl
  unfold listing plan
  rw [emitHandlers_eq, ← hauth]
  rcases (if cfg.auth then placed.emitAuth? cfg renderer else .ok none) with failure | auth
  · rfl
  rcases hhandlers : placed.planHandlers cfg naming renderer with failure | handlers
  · rfl
  have howners := map_owner_planHandlers hhandlers
  cases auth <;> simp [Except.map, Listing.ofOwned, ← howners]

end PlacedGroup

namespace RouteGraph

variable {graph : RouteGraph}

theorem sharedListing_eq_map_planShared :
    graph.sharedListing cfg renderer = (graph.planShared cfg renderer).map .ofOwned := by
  unfold sharedListing planShared
  split
  · cases graph.emitErrorCatalog cfg renderer with
    | error failure => rfl
    | ok catalog => cases graph.emitPolicyTable cfg <;> rfl
  · rfl

theorem listing_eq_map_planOwned :
    graph.listing cfg naming renderer = (graph.planOwned cfg naming renderer).map .ofOwned := by
  unfold listing planOwned
  simp only [sharedListing_eq_map_planShared, PlacedGroup.listing_eq_map_plan, Except.mapM_map_eq]
  rcases graph.planShared cfg renderer with failure | shared
  · rfl
  rcases hgroups : graph.placed.mapM (·.plan cfg naming renderer) with failure | groups
  · simp only [hgroups]
    rfl
  simp only [hgroups, Except.map, Except.ok_bind, Listing.ofOwned, List.map_append, List.map_flatten,
    List.flatMap_def, List.map_map]
  rfl

/-- The two lists of a run put together give the list that is made together. -/
theorem map_owned_listing :
    (graph.listing cfg naming renderer).map Listing.owned = graph.planOwned cfg naming renderer := by
  rw [listing_eq_map_planOwned]
  rcases graph.planOwned cfg naming renderer with failure | owned
  · rfl
  · exact congrArg Except.ok (Listing.owned_ofOwned owned)

/-- No artifact is without an owner, and no owner without an artifact. -/
theorem length_owners_of_listing {listing : Listing}
    (h : graph.listing cfg naming renderer = .ok listing) :
    listing.owners.length = listing.artifacts.length := by
  rw [listing_eq_map_planOwned] at h
  obtain ⟨owned, -, rfl⟩ := Except.map_eq_ok_iff.1 h
  simp [Listing.ofOwned]

/-- A plan, with artifacts and owners made together. -/
theorem plan_eq (graph : RouteGraph) (cfg : Config) (registry : TemplateRegistry)
    (engine : Template.Engine) :
    graph.plan cfg registry engine = (do
      let naming ← cfg.naming
      let renderer ← registry.compile engine
      let owned ← graph.planOwned cfg naming renderer
      match collision? [] owned with
      | some failure => .error failure
      | none => .ok (owned.map (·.artifact))) := by
  unfold plan
  refine congrArg (cfg.naming >>= ·) (funext fun naming => ?_)
  refine congrArg (registry.compile engine >>= ·) (funext fun renderer => ?_)
  rw [listing_eq_map_planOwned]
  rcases graph.planOwned cfg naming renderer with failure | owned
  · rfl
  · simp only [Except.map, Except.ok_bind, Listing.owned_ofOwned]
    rfl

end RouteGraph

end Columns

end RouteScaffold
