import RouteScaffold.Proofs.Authorization.PolicyText
import RouteScaffold.Proofs.Plan.Emission

/-!
# Inspection and generation

Handlers, error codes and policy rows are derived in two places: by walks of their own, for showing them,
and once more by the emitters of a plan, group by group. What is shown is what is written: where there
is a plan, the derived parts stand in it, in their order; where a name is missing, both walks stop at
the same route and fail with the same.

The main statement is `inspection_agrees`.
-/

namespace RouteScaffold

/-! ### Where there is a plan -/

namespace RouteGraph

variable {graph : RouteGraph} {cfg : Config} {registry : TemplateRegistry} {engine : Template.Engine}

/-- What is derived from the graph on its own stands in the artifacts. -/
structure Inspects (graph : RouteGraph) (cfg : Config) (registry : TemplateRegistry)
    (engine : Template.Engine) (artifacts : List Artifact) : Prop where
  handlers : ∃ naming plans, cfg.naming = .ok naming ∧ graph.handlerPlans cfg naming = .ok plans ∧
    plans.map HandlerPlan.path = (artifacts.filter (·.kind == .handler)).map (·.path)
  codes : cfg.auth = true → ∃ groups renderer imports catalog,
    graph.denialGroups cfg = .ok groups ∧ registry.compile engine = .ok renderer ∧
      artifacts.filter (·.kind == .authError) = [catalog] ∧
        renderer.text Template.BuiltIn.authErrorName (DenialCatalog.scope ⟨imports, groups⟩) =
          .ok catalog.contents
  rows : cfg.auth = true → ∃ rows policy, graph.policyRows cfg = .ok rows ∧
    artifacts.filter (·.kind == .policy) = [policy] ∧
      policy.contents = "\n".intercalate (rows.map PolicyRow.text) ∧
        policy.contents.toList.getLast? ≠ some '\n'

theorem filter_kind_map_slot (artifacts : List Artifact) (kind : ArtifactKind) :
    (artifacts.map Artifact.slot).filter (·.1 == kind) =
      (artifacts.filter (·.kind == kind)).map Artifact.slot :=
  List.filter_map

theorem handlers_of_plan {artifacts : List Artifact}
    (h : graph.plan cfg registry engine = .ok artifacts) :
    ∃ naming plans, cfg.naming = .ok naming ∧ graph.handlerPlans cfg naming = .ok plans ∧
      plans.map HandlerPlan.path = (artifacts.filter (·.kind == .handler)).map (·.path) := by
  obtain ⟨naming, hnaming, hslots⟩ := slots_of_plan h
  have hbases : ∀ placed ∈ graph.placed, ∀ route ∈ placed.group.routes, route.HasBase :=
    forall_mem_placed.2 (plannable_of_plan h).bases
  refine ⟨naming, _, hnaming, handlerPlans_eq_ok_iff.2 ⟨hbases, rfl⟩, ?_⟩
  have hhandlers : (artifacts.filter (·.kind == .handler)).map Artifact.slot =
      (graph.handlerPaths cfg naming).map (.handler, ·) := by
    rw [← filter_kind_map_slot, hslots, filter_handler_slots]
  have hpaths := congrArg (List.map Prod.snd) hhandlers
  rw [List.map_map, List.map_map] at hpaths
  rw [map_path_plansAt]
  exact (hpaths.trans (List.map_id _)).symm

/-- What groups bring is of other kinds than what belongs to the graph as a whole. -/
theorem filter_groups_eq_nil {kind : ArtifactKind} (hkind : kind = .authError ∨ kind = .policy)
    {naming : Naming.NamingFormat} {entries : List OwnedArtifact}
    (h : entries.map OwnedArtifact.slot = graph.placed.flatMap (·.slots cfg naming)) :
    (entries.map (·.artifact)).filter (·.kind == kind) = [] := by
  rw [List.filter_eq_nil_iff, List.forall_mem_map]
  intro entry hentry hentryKind
  rw [beq_iff_eq] at hentryKind
  have hslot : entry.slot ∈ graph.placed.flatMap (·.slots cfg naming) :=
    h ▸ List.mem_map_of_mem hentry
  obtain ⟨placed, -, hslot⟩ := List.mem_flatMap.1 hslot
  have hgroup : kind = .auth ∨ kind = .handler := hentryKind ▸ PlacedGroup.kind_of_mem_slots hslot
  rcases hkind with rfl | rfl <;> rcases hgroup with hgroup | hgroup <;> cases hgroup

/-- The catalog and the table are the only artifacts of their kinds. -/
theorem shared_of_plan (hauth : cfg.auth = true) {artifacts : List Artifact}
    (h : graph.plan cfg registry engine = .ok artifacts) :
    ∃ renderer catalog policy, registry.compile engine = .ok renderer ∧
      graph.emitErrorCatalog cfg renderer = .ok catalog ∧ graph.emitPolicyTable cfg = .ok policy ∧
        artifacts.filter (·.kind == .authError) = [catalog] ∧
          artifacts.filter (·.kind == .policy) = [policy] := by
  obtain ⟨naming, renderer, owned, -, hcompile, howned, -, rfl⟩ := plan_eq_ok_iff.1 h
  have hslots := slots_of_planOwned howned
  obtain ⟨shared, hshared, parts, -, rfl⟩ := planOwned_eq_ok_iff.1 howned
  have hsharedSlots := slots_of_planShared hshared
  rw [List.map_append, hsharedSlots, slots] at hslots
  have hgroups := List.append_cancel_left hslots
  obtain ⟨catalog, hcatalog, policy, hpolicy, rfl⟩ := (planShared_eq_ok_iff hauth).1 hshared
  rw [sharedSlots, if_pos hauth] at hsharedSlots
  obtain ⟨hcatalogSlot, hpolicySlot⟩ := List.cons_eq_cons.1 hsharedSlots
  have hcatalogKind : catalog.kind = .authError := congrArg Prod.fst hcatalogSlot
  have hpolicyKind : policy.kind = .policy := congrArg Prod.fst (List.cons_eq_cons.1 hpolicySlot).1
  refine ⟨renderer, catalog, policy, hcompile, hcatalog, hpolicy, ?_, ?_⟩
  · rw [List.map_append, List.filter_append, filter_groups_eq_nil (.inl rfl) hgroups]
    simp [hcatalogKind, hpolicyKind]
  · rw [List.map_append, List.filter_append, filter_groups_eq_nil (.inr rfl) hgroups]
    simp [hcatalogKind, hpolicyKind]

theorem inspects_of_plan {artifacts : List Artifact}
    (h : graph.plan cfg registry engine = .ok artifacts) :
    graph.Inspects cfg registry engine artifacts where
  handlers := handlers_of_plan h
  codes hauth := by
    obtain ⟨renderer, catalog, policy, hcompile, hcatalog, -, hcatalogs, -⟩ := shared_of_plan hauth h
    obtain ⟨data, hdata, hrender⟩ := Except.bind_eq_ok_iff.1 hcatalog
    obtain ⟨groups, hgroups, hdata⟩ := Except.bind_eq_ok_iff.1 hdata
    cases hdata
    obtain ⟨contents, htext, rfl⟩ := Renderer.render_eq_ok_iff.1 hrender
    exact ⟨groups, renderer, _, _, hgroups, hcompile, hcatalogs, htext⟩
  rows hauth := by
    obtain ⟨renderer, catalog, policy, -, -, hpolicy, -, hpolicies⟩ := shared_of_plan hauth h
    obtain ⟨rows, hrows, hpolicy⟩ := Except.bind_eq_ok_iff.1 hpolicy
    cases hpolicy
    exact ⟨rows, _, hrows, hpolicies, rfl, PolicyRow.getLast?_table_ne rows⟩

end RouteGraph

/-! ### Where a name is missing -/

section Failing

variable {cfg : Config} {naming : Naming.NamingFormat} {renderer : Renderer} {failure : Failure}

namespace PlacedGroup

variable {placed : PlacedGroup}

/-- A complete renderer adds no failure to those of the plan. -/
theorem handlerPlan_eq_error_iff (hrenderer : renderer.Complete) {routeIndex : Nat} {route : Route} :
    placed.handlerPlan cfg naming routeIndex route = .error failure ↔
      placed.emitHandler cfg naming renderer routeIndex route = .error failure := by
  unfold emitHandler
  rw [Except.bind_eq_error_iff]
  constructor
  · exact .inl
  · rintro (h | ⟨plan, -, hrender⟩)
    · exact h
    · obtain ⟨artifact, hartifact⟩ :=
        Renderer.exists_render (hrenderer.handler plan.data) .handler plan.path
      rw [hartifact] at hrender
      cases hrender

theorem handlerPlans_eq_error_iff (hrenderer : renderer.Complete) :
    placed.handlerPlans cfg naming = .error failure ↔
      placed.emitHandlers cfg naming renderer = .error failure :=
  Except.mapM_eq_error_congr fun _ _ _ => handlerPlan_eq_error_iff hrenderer

end PlacedGroup

namespace RouteGraph

variable {graph : RouteGraph}

theorem handlerPlans_eq_error_iff (hrenderer : renderer.Complete) :
    graph.handlerPlans cfg naming = .error failure ↔
      graph.placed.mapM (·.emitHandlers cfg naming renderer) = .error failure := by
  have hgroups : ∀ placed ∈ graph.placed, ∀ failure,
      placed.handlerPlans cfg naming = .error failure ↔
        placed.emitHandlers cfg naming renderer = .error failure :=
    fun _ _ _ => PlacedGroup.handlerPlans_eq_error_iff hrenderer
  unfold handlerPlans
  rw [Except.bind_eq_error_iff, ← Except.mapM_eq_error_congr hgroups]
  simp

theorem failsWith_handlerPlans (graph : RouteGraph) :
    (graph.handlerPlans cfg naming).FailsWith fun failure =>
      ∃ location fault, failure = .namingResolution location fault := by
  refine .bind (.mapM fun placed _ => .mapM fun p _ => .bind ?_ fun base _ => .ok _) fun plans _ => .ok _
  exact (placed.failsWith_baseName cfg p.1 p.2).imp fun failure ⟨fault, h⟩ => ⟨_, fault, h⟩

/-- What is shown of a graph and what is generated from it agree. In every plan the handlers stand at the
derived paths, the catalog shows the derived codes and the policy table consists of the derived rows;
and with the built-in templates the emitters fail exactly where the handlers cannot be derived, the first
failing group with the same. -/
theorem inspection_agrees (graph : RouteGraph) (cfg : Config) :
    (∀ registry engine artifacts, graph.plan cfg registry engine = .ok artifacts →
      graph.Inspects cfg registry engine artifacts) ∧
    ∃ renderer, TemplateRegistry.builtIn.compile = .ok renderer ∧ ∀ naming,
      ((∃ location fault, graph.handlerPlans cfg naming = .error (.namingResolution location fault)) ↔
        ∃ placed ∈ graph.placed, ∃ failure, placed.emitHandlers cfg naming renderer = .error failure) ∧
      ∀ failure, graph.handlerPlans cfg naming = .error failure ↔
        ∃ before placed after, graph.placed = before ++ placed :: after ∧
          (∀ earlier ∈ before, ∃ artifacts, earlier.emitHandlers cfg naming renderer = .ok artifacts) ∧
            placed.emitHandlers cfg naming renderer = .error failure := by
  obtain ⟨renderer, hcompile, hrenderer⟩ := exists_builtIn_renderer
  refine ⟨fun _ _ _ => inspects_of_plan, renderer, hcompile, fun naming => ⟨?_, fun failure => ?_⟩⟩
  · rw [← Except.exists_mapM_eq_error_iff]
    simp only [← handlerPlans_eq_error_iff hrenderer]
    constructor
    · rintro ⟨location, fault, h⟩
      exact ⟨_, h⟩
    · rintro ⟨failure, h⟩
      obtain ⟨location, fault, rfl⟩ := graph.failsWith_handlerPlans failure h
      exact ⟨location, fault, h⟩
  · rw [handlerPlans_eq_error_iff hrenderer, Except.mapM_eq_error_iff]

end RouteGraph

end Failing

theorem usersGraph_inspects :
    ∃ artifacts, usersGraph.plan {} plainTemplates = .ok artifacts ∧
      usersGraph.Inspects {} plainTemplates .standard artifacts := by
  obtain ⟨artifacts, hplan⟩ := exists_plan_usersGraph
  exact ⟨artifacts, hplan, (RouteGraph.inspection_agrees usersGraph {}).1 _ _ _ hplan⟩

end RouteScaffold
