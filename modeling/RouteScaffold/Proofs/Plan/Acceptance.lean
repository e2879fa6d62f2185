import RouteScaffold.Proofs.Plan.Causes
import RouteScaffold.Proofs.Plan.Paths

/-!
# Which graphs have a plan

With a renderer that is complete nothing but the graph and the options decides whether there is a plan.
`Plannable` lists what is needed, and `plan_builtIn_iff` shows that it is needed and enough with the
built-in templates. The other failures never come from a template.
-/

namespace RouteScaffold

/-- What a graph needs for a plan with the built-in templates. -/
structure RouteGraph.Plannable (graph : RouteGraph) (cfg : Config) : Prop where
  naming : Text.trim cfg.namingFormat = "" ∨
    ∃ naming, Naming.NamingFormat.parse (Text.trim cfg.namingFormat) = .ok naming
  bases : ∀ group ∈ graph.groups, ∀ route ∈ group.routes, route.HasBase
  routes : cfg.auth = true → ∀ guarded ∈ graph.guarded cfg, guarded.group.routes.length ≤ 99
  groups : cfg.auth = true → (graph.guarded cfg).length ≤ 42949652
  names : cfg.auth = true → (graph.entryNames cfg).Nodup
  paths : ∀ naming, cfg.naming = .ok naming →
    ((graph.plannedPaths cfg naming).map Path.components).Nodup

theorem Config.exists_naming_iff {cfg : Config} :
    (∃ naming, cfg.naming = .ok naming) ↔ Text.trim cfg.namingFormat = "" ∨
      ∃ naming, Naming.NamingFormat.parse (Text.trim cfg.namingFormat) = .ok naming := by
  unfold Config.naming Naming.NamingFormat.ofText
  by_cases hblank : Text.trim cfg.namingFormat = ""
  · simp [hblank]
  · cases hparse : Naming.NamingFormat.parse (Text.trim cfg.namingFormat) with
    | ok naming => simp [hblank, hparse, Except.mapError]
    | error fault => simp [hblank, hparse, Except.mapError]

namespace RouteGraph

variable {graph : RouteGraph} {cfg : Config}

theorem hasBase_of_mem_guarded (h : ∀ group ∈ graph.groups, ∀ route ∈ group.routes, route.HasBase)
    {guarded : GuardedGroup} (hguarded : guarded ∈ graph.guarded cfg) :
    ∀ route ∈ guarded.group.routes, route.HasBase := by
  obtain ⟨placed, hplaced, hsubject⟩ := List.mem_filterMap.1 hguarded
  obtain rfl := PlacedGroup.toPlacedGroup_of_guarded? hsubject
  exact forall_mem_placed.2 h _ hplaced

/-- Equal methods make equal entries, so distinct entries leave the methods distinct. -/
theorem nodup_methodNames (hnames : (graph.entryNames cfg).Nodup) {guarded : GuardedGroup}
    (hguarded : guarded ∈ graph.guarded cfg) :
    ((guarded.group.routes.map guarded.methodAt).map AuthMethod.name).Nodup := by
  have hentries : (guarded.group.routes.map guarded.entryName).Nodup :=
    (List.nodup_flatMap.1 hnames).1 guarded hguarded
  rw [List.map_map]
  unfold List.Nodup at hentries ⊢
  rw [List.pairwise_map] at hentries ⊢
  refine hentries.imp fun {first second} hne hmethod => hne ?_
  have haction : Naming.actionName first.base = Naming.actionName second.base :=
    (String.append_right_inj "Can").1 hmethod
  unfold GuardedGroup.entryName
  rw [haction]

theorem AllowsCatalog.authMethods_eq (h : graph.AllowsCatalog cfg) {guarded : GuardedGroup}
    (hguarded : guarded ∈ graph.guarded cfg) :
    guarded.authMethods cfg = .ok (guarded.group.routes.map guarded.methodAt) :=
  GuardedGroup.authMethods_eq_ok_iff.2
    ⟨h.bases guarded hguarded, rfl, nodup_methodNames h.names hguarded⟩

theorem Plannable.allowsCatalog (h : graph.Plannable cfg) (hauth : cfg.auth = true) :
    graph.AllowsCatalog cfg where
  routes := h.routes hauth
  groups := h.groups hauth
  bases := fun _ => hasBase_of_mem_guarded h.bases
  names := h.names hauth

theorem Plannable.authMethods_eq (h : graph.Plannable cfg) (hauth : cfg.auth = true)
    {guarded : GuardedGroup} (hguarded : guarded ∈ graph.guarded cfg) :
    guarded.authMethods cfg = .ok (guarded.group.routes.map guarded.methodAt) :=
  (h.allowsCatalog hauth).authMethods_eq hguarded

theorem AllowsCatalog.policyRows_eq (h : graph.AllowsCatalog cfg) :
    graph.policyRows cfg = .ok ((graph.guarded cfg).flatMap GuardedGroup.rowsAt) :=
  policyRows_eq_ok_iff.2 ⟨h.bases, rfl⟩

theorem AllowsCatalog.exists_emitPolicyTable (h : graph.AllowsCatalog cfg) :
    ∃ policy, graph.emitPolicyTable cfg = .ok policy :=
  ⟨_, Except.bind_eq_ok_iff.2 ⟨_, h.policyRows_eq, rfl⟩⟩

theorem allowsCatalog_of_emitErrorCatalog {renderer : Renderer} {artifact : Artifact}
    (h : graph.emitErrorCatalog cfg renderer = .ok artifact) : graph.AllowsCatalog cfg := by
  obtain ⟨catalog, hcatalog, -⟩ := Except.bind_eq_ok_iff.1 h
  obtain ⟨groups, hgroups, -⟩ := Except.bind_eq_ok_iff.1 hcatalog
  exact (denialGroups_eq_ok_iff.1 hgroups).1

theorem allowsCatalog_of_planShared {renderer : Renderer} {shared : List OwnedArtifact}
    (h : graph.planShared cfg renderer = .ok shared) : cfg.auth = true → graph.AllowsCatalog cfg := by
  intro hauth
  obtain ⟨catalog, hcatalog, -⟩ := (planShared_eq_ok_iff hauth).1 h
  exact allowsCatalog_of_emitErrorCatalog hcatalog

end RouteGraph

section Emitters

variable {cfg : Config} {naming : Naming.NamingFormat} {renderer : Renderer}

theorem Renderer.exists_render {data : Template.Scope} {template : String}
    (h : ∃ s, renderer.text template data = .ok s) (kind : ArtifactKind) (path : Path) :
    ∃ artifact, renderer.render kind template path data = .ok artifact := by
  obtain ⟨s, hs⟩ := h
  exact ⟨_, render_eq_ok_iff.2 ⟨s, hs, rfl⟩⟩

namespace PlacedGroup

variable {placed : PlacedGroup}

theorem exists_planHandlers (hrenderer : renderer.Complete)
    (hbases : ∀ route ∈ placed.group.routes, route.HasBase) :
    ∃ owned, placed.planHandlers cfg naming renderer = .ok owned := by
  refine Except.exists_mapM_eq_ok fun p hp => ?_
  have hbase : p.2.HasBase := hbases p.2 (snd_mem_of_mem_numbered hp)
  have hplan : ∃ plan, placed.handlerPlan cfg naming p.1 p.2 = .ok plan :=
    ⟨_, handlerPlan_eq_ok_iff.2 ⟨hbase, rfl⟩⟩
  obtain ⟨plan, hplan⟩ := hplan
  obtain ⟨artifact, hartifact⟩ :=
    Renderer.exists_render (hrenderer.handler plan.data) .handler plan.path
  refine ⟨⟨artifact, .route (placed.routeRef cfg p.1 p.2)⟩, ?_⟩
  have hemit : placed.emitHandler cfg naming renderer p.1 p.2 = .ok artifact :=
    Except.bind_eq_ok_iff.2 ⟨_, hplan, hartifact⟩
  exact Except.bind_eq_ok_iff.2 ⟨artifact, hemit, rfl⟩

theorem exists_planAuth (hrenderer : renderer.Complete)
    (hmethods : cfg.auth = true → ∀ guarded, placed.guarded? cfg = some guarded →
      ∃ methods, guarded.authMethods cfg = .ok methods) :
    ∃ owned, placed.planAuth cfg renderer = .ok owned := by
  unfold planAuth
  cases hauth : cfg.auth with
  | false => exact ⟨[], rfl⟩
  | true =>
    rw [if_pos rfl]
    unfold emitAuth?
    cases hguarded : placed.guarded? cfg with
    | none => exact ⟨[], rfl⟩
    | some guarded =>
      obtain ⟨methods, hmethods⟩ := hmethods hauth guarded hguarded
      have hface : ∃ face, guarded.authInterface cfg = .ok face :=
        ⟨_, Except.bind_eq_ok_iff.2 ⟨methods, hmethods, rfl⟩⟩
      obtain ⟨face, hface⟩ := hface
      obtain ⟨artifact, hartifact⟩ :=
        Renderer.exists_render (hrenderer.auth face) .auth guarded.subject.authPath
      have hemit : guarded.emitAuth cfg renderer = .ok artifact :=
        Except.bind_eq_ok_iff.2 ⟨face, hface, hartifact⟩
      refine ⟨_, Except.bind_eq_ok_iff.2 ⟨some artifact, ?_, rfl⟩⟩
      exact Except.map_eq_ok_iff.2 ⟨artifact, hemit, rfl⟩

end PlacedGroup

namespace RouteGraph

variable {graph : RouteGraph}

theorem exists_planShared (hrenderer : renderer.Complete)
    (hallows : cfg.auth = true → graph.AllowsCatalog cfg) :
    ∃ owned, graph.planShared cfg renderer = .ok owned := by
  cases hauth : cfg.auth with
  | false =>
    unfold planShared
    rw [hauth]
    exact ⟨[], rfl⟩
  | true =>
    have hallows := hallows hauth
    have hgroups := denialGroups_eq_ok_iff.2 ⟨hallows, rfl⟩
    obtain ⟨policy, hpolicy⟩ := hallows.exists_emitPolicyTable
    have hcatalog : ∃ catalog, graph.denialCatalog cfg = .ok catalog :=
      ⟨_, Except.bind_eq_ok_iff.2 ⟨_, hgroups, rfl⟩⟩
    obtain ⟨catalog, hcatalog⟩ := hcatalog
    obtain ⟨artifact, hartifact⟩ :=
      Renderer.exists_render (hrenderer.authError catalog) .authError errorCatalogPath
    have hemit : graph.emitErrorCatalog cfg renderer = .ok artifact :=
      Except.bind_eq_ok_iff.2 ⟨catalog, hcatalog, hartifact⟩
    exact ⟨_, (planShared_eq_ok_iff hauth).2
      ⟨artifact, hemit, policy, hpolicy, rfl⟩⟩

theorem exists_planOwned (hrenderer : renderer.Complete) (h : graph.Plannable cfg) :
    ∃ owned, graph.planOwned cfg naming renderer = .ok owned := by
  obtain ⟨shared, hshared⟩ := exists_planShared hrenderer h.allowsCatalog
  have hgroups : ∀ placed ∈ graph.placed,
      ∃ part, placed.plan cfg naming renderer = .ok part := by
    intro placed hplaced
    have hgroup : ∀ route ∈ placed.group.routes, route.HasBase :=
      forall_mem_placed.2 h.bases placed hplaced
    have hmethods : cfg.auth = true → ∀ guarded, placed.guarded? cfg = some guarded →
        ∃ methods, guarded.authMethods cfg = .ok methods := by
      intro hauth guarded hsubject
      exact ⟨_, h.authMethods_eq hauth (mem_guarded hplaced hsubject)⟩
    obtain ⟨auth, hauth⟩ := PlacedGroup.exists_planAuth hrenderer hmethods
    obtain ⟨handlers, hhandlers⟩ := PlacedGroup.exists_planHandlers hrenderer hgroup
    exact ⟨_, PlacedGroup.plan_eq_ok_iff.2 ⟨auth, hauth, handlers, hhandlers, rfl⟩⟩
  obtain ⟨parts, hparts⟩ := Except.exists_mapM_eq_ok hgroups
  exact ⟨_, planOwned_eq_ok_iff.2 ⟨shared, hshared, parts, hparts, rfl⟩⟩

/-- What a plan needs is enough when the templates render whatever they are given. -/
theorem Plannable.exists_plan {registry : TemplateRegistry} {engine : Template.Engine}
    {renderer : Renderer} (h : graph.Plannable cfg)
    (hcompile : registry.compile engine = .ok renderer) (hrenderer : renderer.Complete) :
    ∃ artifacts, graph.plan cfg registry engine = .ok artifacts := by
  obtain ⟨naming, hnaming⟩ := Config.exists_naming_iff.2 h.naming
  obtain ⟨owned, howned⟩ := exists_planOwned hrenderer h
  have hplaces : (owned.map fun entry => entry.path.components).Nodup := by
    have hpaths := h.paths naming hnaming
    rwa [← paths_of_planOwned howned, List.map_map] at hpaths
  have hcollision : collision? [] owned = none :=
    collision?_eq_none_iff.2 ⟨hplaces, fun _ _ => List.not_mem_nil⟩
  exact ⟨_, plan_eq_ok_iff.2 ⟨naming, renderer, owned, hnaming, hcompile, howned, hcollision, rfl⟩⟩

/-- What a plan needs, whatever its templates are. -/
theorem plannable_of_plan {registry : TemplateRegistry} {engine : Template.Engine}
    {artifacts : List Artifact}
    (h : graph.plan cfg registry engine = .ok artifacts) : graph.Plannable cfg := by
  obtain ⟨naming, renderer, owned, hnaming, -, howned, hcollision, -⟩ := plan_eq_ok_iff.1 h
  obtain ⟨shared, hshared, parts, hparts, -⟩ := planOwned_eq_ok_iff.1 howned
  have hallows := allowsCatalog_of_planShared hshared
  refine ⟨Config.exists_naming_iff.1 ⟨naming, hnaming⟩, ?_, fun hauth => (hallows hauth).routes,
    fun hauth => (hallows hauth).groups, fun hauth => (hallows hauth).names, ?_⟩
  · rw [← forall_mem_placed]
    intro placed hplaced
    obtain ⟨part, hpart⟩ := Except.exists_ok_of_mapM_eq_ok hparts hplaced
    exact PlacedGroup.hasBase_of_plan hpart
  · intro other hother
    rw [hnaming] at hother
    cases hother
    rw [← paths_of_planOwned howned, List.map_map]
    exact (collision?_eq_none_iff.1 hcollision).1

end RouteGraph

end Emitters

/-- A graph has a plan with the built-in templates exactly when it is plannable. The templates render
whatever they are given, a plan has the planned paths, and no failure stems from a template. -/
theorem RouteGraph.plan_builtIn_iff (graph : RouteGraph) (cfg : Config) :
    ((∃ artifacts, graph.plan cfg .builtIn = .ok artifacts) ↔ graph.Plannable cfg) ∧
      (∃ renderer, TemplateRegistry.builtIn.compile = .ok renderer ∧ renderer.Complete) ∧
        match graph.plan cfg .builtIn with
        | .ok artifacts => ∃ naming, cfg.naming = .ok naming ∧
            artifacts.map Artifact.path = graph.plannedPaths cfg naming
        | .error failure => failure.cause? = none := by
  obtain ⟨renderer, hcompile, hrenderer⟩ := exists_builtIn_renderer
  refine ⟨⟨fun ⟨_, h⟩ => plannable_of_plan h, fun h => h.exists_plan hcompile hrenderer⟩,
    ⟨renderer, hcompile, hrenderer⟩, ?_⟩
  · cases hplan : graph.plan cfg .builtIn with
    | error failure => exact graph.causeless_plan hcompile hrenderer failure hplan
    | ok artifacts =>
      obtain ⟨naming, _, owned, hnaming, -, howned, -, rfl⟩ := plan_eq_ok_iff.1 hplan
      refine ⟨naming, hnaming, ?_⟩
      rw [← paths_of_planOwned howned, List.map_map]
      rfl

end RouteScaffold
