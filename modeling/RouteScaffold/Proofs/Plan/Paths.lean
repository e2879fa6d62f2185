import RouteScaffold.Proofs.Plan.Success

/-!
# The kinds and paths of a plan

What the artifacts of a graph are and where they go follows from the graph and the options alone.
Whatever the templates make of the contents, a plan has exactly the planned paths, in the planned order,
each with its kind.
-/

namespace RouteScaffold

namespace PlacedGroup

/-- The path of the capability interface, for a group that gets one. -/
def authPaths (placed : PlacedGroup) (cfg : Config) : List Path :=
  if cfg.auth then (placed.guarded? cfg).toList.map fun guarded => guarded.subject.authPath else []

def handlerPaths (placed : PlacedGroup) (cfg : Config) (naming : Naming.NamingFormat) : List Path :=
  placed.group.routes.map fun route =>
    (Naming.handlerPlan cfg naming placed.group route route.base).path

def plannedPaths (placed : PlacedGroup) (cfg : Config) (naming : Naming.NamingFormat) : List Path :=
  placed.authPaths cfg ++ placed.handlerPaths cfg naming

/-- The planned paths of the group with the kinds of what goes there. -/
def slots (placed : PlacedGroup) (cfg : Config) (naming : Naming.NamingFormat) :
    List (ArtifactKind × Path) :=
  (placed.authPaths cfg).map (.auth, ·) ++ (placed.handlerPaths cfg naming).map (.handler, ·)

section Slots

variable (placed : PlacedGroup) (cfg : Config) (naming : Naming.NamingFormat)

theorem map_snd_slots :
    (placed.slots cfg naming).map Prod.snd = placed.plannedPaths cfg naming := by
  simp [slots, plannedPaths, Function.comp_def]

theorem filter_auth_slots :
    (placed.slots cfg naming).filter (·.1 == .auth) = (placed.authPaths cfg).map (.auth, ·) := by
  simp [slots, List.filter_map, Function.comp_def]

theorem filter_handler_slots :
    (placed.slots cfg naming).filter (·.1 == .handler) =
      (placed.handlerPaths cfg naming).map (.handler, ·) := by
  simp [slots, List.filter_map, Function.comp_def]

end Slots

end PlacedGroup

namespace RouteGraph

/-- The paths of the artifacts that belong to the graph as a whole. -/
def sharedPaths (cfg : Config) : List Path :=
  if cfg.auth then [errorCatalogPath, policyTablePath] else []

/-- The paths of all artifacts of a graph, in emission order. -/
def plannedPaths (graph : RouteGraph) (cfg : Config) (naming : Naming.NamingFormat) : List Path :=
  sharedPaths cfg ++ graph.placed.flatMap (·.plannedPaths cfg naming)

def sharedSlots (cfg : Config) : List (ArtifactKind × Path) :=
  if cfg.auth then [(.authError, errorCatalogPath), (.policy, policyTablePath)] else []

/-- The planned paths of the graph with the kinds of what goes there. -/
def slots (graph : RouteGraph) (cfg : Config) (naming : Naming.NamingFormat) :
    List (ArtifactKind × Path) :=
  sharedSlots cfg ++ graph.placed.flatMap (·.slots cfg naming)

theorem map_snd_slots (graph : RouteGraph) (cfg : Config) (naming : Naming.NamingFormat) :
    (graph.slots cfg naming).map Prod.snd = graph.plannedPaths cfg naming := by
  have hshared : (sharedSlots cfg).map Prod.snd = sharedPaths cfg := by
    unfold sharedSlots sharedPaths
    split <;> rfl
  rw [slots, plannedPaths, List.map_append, hshared, List.map_flatMap]
  simp only [PlacedGroup.map_snd_slots]

/-- The paths of the capability interfaces in graph order. -/
def authPaths (graph : RouteGraph) (cfg : Config) : List Path :=
  if cfg.auth then (graph.guarded cfg).map fun guarded => guarded.subject.authPath else []

def handlerPaths (graph : RouteGraph) (cfg : Config) (naming : Naming.NamingFormat) : List Path :=
  graph.placed.flatMap (·.handlerPaths cfg naming)

theorem flatMap_authPaths (graph : RouteGraph) (cfg : Config) :
    graph.placed.flatMap (·.authPaths cfg) = graph.authPaths cfg := by
  unfold PlacedGroup.authPaths authPaths
  by_cases hauth : cfg.auth
  · simp only [hauth, if_true]
    rw [guarded, List.filterMap_eq_flatMap_toList, List.map_flatMap]
  · simp [hauth]

/-- The slots of a kind that only groups have come from the groups, in graph order. -/
theorem filter_slots {kind : ArtifactKind} {paths : PlacedGroup → List Path}
    (hkind : kind ≠ .authError ∧ kind ≠ .policy) (graph : RouteGraph) (cfg : Config)
    (naming : Naming.NamingFormat)
    (hgroup : ∀ placed : PlacedGroup,
      (placed.slots cfg naming).filter (·.1 == kind) = (paths placed).map (kind, ·)) :
    (graph.slots cfg naming).filter (·.1 == kind) = (graph.placed.flatMap paths).map (kind, ·) := by
  have hshared : (sharedSlots cfg).filter (·.1 == kind) = [] := by
    unfold sharedSlots
    split
    · simp [hkind.1.symm, hkind.2.symm]
    · rfl
  rw [slots, List.filter_append, hshared, List.nil_append, List.filter_flatMap, List.map_flatMap]
  simp only [hgroup]

theorem filter_auth_slots (graph : RouteGraph) (cfg : Config) (naming : Naming.NamingFormat) :
    (graph.slots cfg naming).filter (·.1 == .auth) = (graph.authPaths cfg).map (.auth, ·) := by
  rw [← flatMap_authPaths]
  exact filter_slots (by decide) graph cfg naming fun placed => placed.filter_auth_slots cfg naming

theorem filter_handler_slots (graph : RouteGraph) (cfg : Config) (naming : Naming.NamingFormat) :
    (graph.slots cfg naming).filter (·.1 == .handler) =
      (graph.handlerPaths cfg naming).map (.handler, ·) :=
  filter_slots (by decide) graph cfg naming fun placed => placed.filter_handler_slots cfg naming

/-- The paths of a kind stand among the planned ones, in their order. -/
theorem sublist_plannedPaths {graph : RouteGraph} {cfg : Config} {naming : Naming.NamingFormat}
    {kind : ArtifactKind} {paths : List Path}
    (h : (graph.slots cfg naming).filter (·.1 == kind) = paths.map (kind, ·)) :
    paths.Sublist (graph.plannedPaths cfg naming) := by
  have hslots : ((graph.slots cfg naming).filter (·.1 == kind)).Sublist (graph.slots cfg naming) :=
    List.filter_sublist
  have hpaths := hslots.map Prod.snd
  rw [h, map_snd_slots, List.map_map] at hpaths
  simpa [Function.comp_def] using hpaths

theorem authPaths_sublist (graph : RouteGraph) (cfg : Config) (naming : Naming.NamingFormat) :
    (graph.authPaths cfg).Sublist (graph.plannedPaths cfg naming) :=
  sublist_plannedPaths (filter_auth_slots graph cfg naming)

theorem handlerPaths_sublist (graph : RouteGraph) (cfg : Config) (naming : Naming.NamingFormat) :
    (graph.handlerPaths cfg naming).Sublist (graph.plannedPaths cfg naming) :=
  sublist_plannedPaths (filter_handler_slots graph cfg naming)

end RouteGraph

def Artifact.slot (artifact : Artifact) : ArtifactKind × Path := (artifact.kind, artifact.path)

namespace OwnedArtifact

def path (owned : OwnedArtifact) : Path := owned.artifact.path

def slot (owned : OwnedArtifact) : ArtifactKind × Path := owned.artifact.slot

/-- The slot of the artifact with what it is made for. -/
def delivery (owned : OwnedArtifact) : (ArtifactKind × Path) × Owner := (owned.slot, owned.owner)

end OwnedArtifact

namespace PlacedGroup

/-- The slots of the group, each with what it is made for. -/
def deliveries (placed : PlacedGroup) (cfg : Config) (naming : Naming.NamingFormat) :
    List ((ArtifactKind × Path) × Owner) :=
  (placed.authPaths cfg).map (fun path => ((.auth, path), .authInterface (placed.label cfg))) ++
    placed.routes.map fun p =>
      ((.handler, (Naming.handlerPlan cfg naming placed.group p.2 p.2.base).path),
        .route (placed.routeRef cfg p.1 p.2))

theorem map_fst_deliveries (placed : PlacedGroup) (cfg : Config) (naming : Naming.NamingFormat) :
    (placed.deliveries cfg naming).map Prod.fst = placed.slots cfg naming := by
  rw [deliveries, slots, handlerPaths, ← map_snd_numbered 0 placed.group.routes, List.map_append,
    List.map_map, List.map_map, List.map_map, List.map_map]
  rfl

end PlacedGroup

namespace RouteGraph

def sharedDeliveries (cfg : Config) : List ((ArtifactKind × Path) × Owner) :=
  if cfg.auth then
    [((.authError, errorCatalogPath), .errorCatalog), ((.policy, policyTablePath), .policyTable)]
  else []

/-- The slots of all artifacts of a graph in emission order, each with what it is made for. -/
def deliveries (graph : RouteGraph) (cfg : Config) (naming : Naming.NamingFormat) :
    List ((ArtifactKind × Path) × Owner) :=
  sharedDeliveries cfg ++ graph.placed.flatMap (·.deliveries cfg naming)

theorem map_fst_sharedDeliveries (cfg : Config) :
    (sharedDeliveries cfg).map Prod.fst = sharedSlots cfg := by
  unfold sharedDeliveries sharedSlots
  split <;> rfl

theorem map_fst_deliveries (graph : RouteGraph) (cfg : Config) (naming : Naming.NamingFormat) :
    (graph.deliveries cfg naming).map Prod.fst = graph.slots cfg naming := by
  rw [deliveries, slots, List.map_append, map_fst_sharedDeliveries, List.map_flatMap]
  simp only [PlacedGroup.map_fst_deliveries]

end RouteGraph

theorem Renderer.slot_of_render {renderer : Renderer} {kind : ArtifactKind} {template : String}
    {path : Path} {data : Template.Scope} {artifact : Artifact}
    (h : renderer.render kind template path data = .ok artifact) :
    artifact.slot = (kind, path) := by
  obtain ⟨contents, -, rfl⟩ := render_eq_ok_iff.1 h
  rfl

namespace PlacedGroup

variable {placed : PlacedGroup} {cfg : Config} {naming : Naming.NamingFormat} {renderer : Renderer}

theorem slot_of_emitHandler {routeIndex : Nat} {route : Route} {artifact : Artifact}
    (h : placed.emitHandler cfg naming renderer routeIndex route = .ok artifact) :
    artifact.slot =
      (.handler, (Naming.handlerPlan cfg naming placed.group route route.base).path) := by
  obtain ⟨plan, hplan, hrender⟩ := Except.bind_eq_ok_iff.1 h
  obtain ⟨-, rfl⟩ := handlerPlan_eq_ok_iff.1 hplan
  exact Renderer.slot_of_render hrender

theorem deliveries_of_planHandlers {owned : List OwnedArtifact}
    (h : placed.planHandlers cfg naming renderer = .ok owned) :
    owned.map OwnedArtifact.delivery = placed.routes.map fun p =>
      ((.handler, (Naming.handlerPlan cfg naming placed.group p.2 p.2.base).path),
        .route (placed.routeRef cfg p.1 p.2)) := by
  refine Except.map_eq_map_of_mapM_eq_ok (fun p entry hentry => ?_) h
  obtain ⟨artifact, hartifact, hentry⟩ := Except.bind_eq_ok_iff.1 hentry
  cases hentry
  exact congrArg (·, Owner.route (placed.routeRef cfg p.1 p.2)) (slot_of_emitHandler hartifact)

theorem deliveries_of_planAuth {owned : List OwnedArtifact}
    (h : placed.planAuth cfg renderer = .ok owned) :
    owned.map OwnedArtifact.delivery =
      (placed.authPaths cfg).map fun path => ((.auth, path), .authInterface (placed.label cfg)) := by
  unfold planAuth at h
  unfold authPaths
  cases hauth : cfg.auth with
  | false =>
    rw [hauth] at h
    cases h
    rfl
  | true =>
    rw [hauth, if_pos rfl] at h
    rw [if_pos rfl]
    obtain ⟨found, hfound, howned⟩ := Except.bind_eq_ok_iff.1 h
    cases howned
    unfold emitAuth? at hfound
    cases hguarded : placed.guarded? cfg with
    | none =>
      rw [hguarded] at hfound
      cases hfound
      rfl
    | some guarded =>
      rw [hguarded] at hfound
      obtain ⟨artifact, hartifact, rfl⟩ := Except.map_eq_ok_iff.1 hfound
      obtain ⟨face, -, hrender⟩ := Except.bind_eq_ok_iff.1 hartifact
      have hslot : artifact.slot = (.auth, guarded.subject.authPath) :=
        Renderer.slot_of_render hrender
      exact congrArg (fun slot => [(slot, Owner.authInterface (placed.label cfg))]) hslot

theorem deliveries_of_plan {owned : List OwnedArtifact}
    (h : placed.plan cfg naming renderer = .ok owned) :
    owned.map OwnedArtifact.delivery = placed.deliveries cfg naming := by
  obtain ⟨auth, hauth, handlers, hhandlers, rfl⟩ := plan_eq_ok_iff.1 h
  rw [List.map_append, deliveries_of_planAuth hauth, deliveries_of_planHandlers hhandlers, deliveries]

end PlacedGroup

namespace RouteGraph

variable {graph : RouteGraph} {cfg : Config} {naming : Naming.NamingFormat} {renderer : Renderer}

theorem deliveries_of_planShared {owned : List OwnedArtifact}
    (h : graph.planShared cfg renderer = .ok owned) :
    owned.map OwnedArtifact.delivery = sharedDeliveries cfg := by
  unfold sharedDeliveries
  cases hauth : cfg.auth with
  | false =>
    unfold planShared at h
    rw [hauth] at h
    cases h
    rfl
  | true =>
    obtain ⟨catalog, hcatalog, policy, hpolicy, rfl⟩ := (planShared_eq_ok_iff hauth).1 h
    obtain ⟨_, -, hrender⟩ := Except.bind_eq_ok_iff.1 hcatalog
    obtain ⟨_, -, htable⟩ := Except.bind_eq_ok_iff.1 hpolicy
    cases htable
    have hslot : catalog.slot = (.authError, errorCatalogPath) :=
      Renderer.slot_of_render hrender
    exact congrArg (fun slot => [(slot, Owner.errorCatalog), ((.policy, policyTablePath), .policyTable)])
      hslot

theorem slots_of_planShared {owned : List OwnedArtifact}
    (h : graph.planShared cfg renderer = .ok owned) :
    owned.map OwnedArtifact.slot = sharedSlots cfg := by
  rw [← map_fst_sharedDeliveries, ← deliveries_of_planShared h, List.map_map]
  rfl

theorem deliveries_of_planOwned {owned : List OwnedArtifact}
    (h : graph.planOwned cfg naming renderer = .ok owned) :
    owned.map OwnedArtifact.delivery = graph.deliveries cfg naming := by
  obtain ⟨shared, hshared, groups, hgroups, rfl⟩ := planOwned_eq_ok_iff.1 h
  have hdeliveries : groups.map (List.map OwnedArtifact.delivery) =
      graph.placed.map (·.deliveries cfg naming) :=
    Except.map_eq_map_of_mapM_eq_ok (fun _ _ => PlacedGroup.deliveries_of_plan) hgroups
  rw [List.map_append, deliveries_of_planShared hshared, List.map_flatten, hdeliveries, deliveries,
    List.flatMap_def]

theorem slots_of_planOwned {owned : List OwnedArtifact}
    (h : graph.planOwned cfg naming renderer = .ok owned) :
    owned.map OwnedArtifact.slot = graph.slots cfg naming := by
  rw [← map_fst_deliveries, ← deliveries_of_planOwned h, List.map_map]
  rfl

theorem paths_of_planOwned {owned : List OwnedArtifact}
    (h : graph.planOwned cfg naming renderer = .ok owned) :
    owned.map OwnedArtifact.path = graph.plannedPaths cfg naming := by
  rw [← map_snd_slots, ← slots_of_planOwned h, List.map_map]
  rfl

theorem slots_of_plan {registry : TemplateRegistry} {engine : Template.Engine}
    {artifacts : List Artifact} (h : graph.plan cfg registry engine = .ok artifacts) :
    ∃ naming, cfg.naming = .ok naming ∧ artifacts.map Artifact.slot = graph.slots cfg naming := by
  obtain ⟨naming, _, owned, hnaming, -, howned, -, rfl⟩ := plan_eq_ok_iff.1 h
  refine ⟨naming, hnaming, ?_⟩
  rw [← slots_of_planOwned howned, List.map_map]
  rfl

end RouteGraph

theorem collision?_eq_none_iff {seen : List (List Component × Owner)}
    {owned : List OwnedArtifact} :
    collision? seen owned = none ↔
      (owned.map fun entry => entry.path.components).Nodup ∧
        ∀ place ∈ owned.map fun entry => entry.path.components, place ∉ seen.map Prod.fst := by
  induction owned generalizing seen with
  | nil => simp [collision?]
  | cons entry rest ih =>
    rw [List.map_cons, List.nodup_fresh_cons_iff, ← List.lookup_eq_none_iff_notMem]
    cases hseen : seen.lookup entry.path.components with
    | some first =>
      have hcollision : (collision? seen (entry :: rest)).isSome := by
        unfold OwnedArtifact.path at hseen
        unfold collision?
        simp only [hseen, Option.isSome_some]
      simp [Option.isSome_iff_ne_none.1 hcollision]
    | none =>
      have hrest : collision? seen (entry :: rest) =
          collision? ((entry.path.components, entry.owner) :: seen) rest := by
        unfold OwnedArtifact.path at hseen ⊢
        conv_lhs => unfold collision?
        simp only [hseen]
      rw [hrest, ih, List.map_cons, eq_self, true_and]

/-- No two artifacts of a plan go to one place. -/
theorem RouteGraph.nodup_places_of_plan {graph : RouteGraph} {cfg : Config}
    {registry : TemplateRegistry} {engine : Template.Engine} {artifacts : List Artifact}
    (h : graph.plan cfg registry engine = .ok artifacts) :
    (artifacts.map fun artifact => artifact.path.components).Nodup := by
  obtain ⟨_, _, owned, -, -, -, hcollision, rfl⟩ := plan_eq_ok_iff.1 h
  rw [List.map_map]
  exact (collision?_eq_none_iff.1 hcollision).1

end RouteScaffold
