import RouteScaffold.Proofs.Authorization.Agreement
import RouteScaffold.Proofs.Plan.Acceptance

/-!
# What the catalog pass settles for the passes after it

The catalog is made first. It needs a base for every guarded route and distinct names all over the graph, so
a graph that gets through it has policy rows, and methods for every guarded group: equal methods of a group
would make equal entries. Once there is a catalog, then, nothing but a template can stop an interface, and a
plan that finds an identifier derived twice has found it in the catalog pass.

The main statement is `catalog_subsumes`.
-/

namespace RouteScaffold

/-- The identifier that a failure says is derived twice. -/
def Failure.twice? : Failure → Option String
  | .duplicateIdentifier identifier _ _ => some identifier
  | _ => none

/-- No failure of the step is about an identifier derived twice. -/
abbrev FindsNothingTwice {α : Type} (x : Except Failure α) : Prop :=
  x.FailsWith fun failure => failure.twice? = none

/-- The failure is one of rendering a template. -/
def Failure.OfRendering (failure : Failure) : Prop :=
  ∃ template path fault, failure = .templateRender template path fault

theorem Failure.OfRendering.twice?_eq_none {failure : Failure} (h : failure.OfRendering) :
    failure.twice? = none := by
  obtain ⟨_, _, _, rfl⟩ := h
  rfl

/-- The reference is to a route of a guarded group whose denial has the given name. -/
def RouteGraph.Denies (graph : RouteGraph) (cfg : Config) (name : String) (ref : RouteRef) : Prop :=
  ∃ guarded ∈ graph.guarded cfg, ∃ p ∈ guarded.routes,
    name = denialName guarded.subject.ident (Naming.actionName p.2.base) ∧
      ref = guarded.routeRef cfg p.1 p.2

section Steps

variable {cfg : Config} {naming : Naming.NamingFormat} {renderer : Renderer}

theorem Renderer.failsOfRendering_render (kind : ArtifactKind) (template : String) (path : Path)
    (data : Template.Scope) :
    (renderer.render kind template path data).FailsWith Failure.OfRendering :=
  (renderer.failsWith_render kind template path data).imp fun _ ⟨fault, h⟩ => ⟨_, _, fault, h⟩

theorem PlacedGroup.findsNothingTwice_planHandlers (placed : PlacedGroup) :
    FindsNothingTwice (placed.planHandlers cfg naming renderer) := by
  refine .mapM fun p _ => ?_
  refine .bind (.bind (.bind ?_ fun base _ => .ok _) fun plan _ => ?_) fun artifact _ => .ok _
  · refine (placed.failsWith_baseName cfg p.1 p.2).imp ?_
    rintro _ ⟨_, rfl⟩
    rfl
  · exact (Renderer.failsOfRendering_render _ _ _ _).imp fun _ => Failure.OfRendering.twice?_eq_none

/-! ### After the catalog -/

/-- With its methods at hand an interface is a matter of its template. -/
theorem GuardedGroup.failsWith_emitAuth {guarded : GuardedGroup}
    (h : ∃ methods, guarded.authMethods cfg = .ok methods) :
    (guarded.emitAuth cfg renderer).FailsWith fun failure =>
      ∃ fault, failure = .templateRender Template.BuiltIn.authName guarded.subject.authPath fault := by
  obtain ⟨methods, hmethods⟩ := h
  unfold emitAuth authInterface
  rw [hmethods]
  exact renderer.failsWith_render _ _ _ _

namespace RouteGraph

variable {graph : RouteGraph}

theorem AllowsCatalog.failsWith_emitAuth? (h : graph.AllowsCatalog cfg) {placed : PlacedGroup}
    (hplaced : placed ∈ graph.placed) :
    (placed.emitAuth? cfg renderer).FailsWith fun failure =>
      ∃ guarded fault, placed.guarded? cfg = some guarded ∧
        failure = .templateRender Template.BuiltIn.authName guarded.subject.authPath fault := by
  unfold PlacedGroup.emitAuth?
  cases hguarded : placed.guarded? cfg with
  | none => exact .ok _
  | some guarded =>
    refine .map (.imp (GuardedGroup.failsWith_emitAuth ?_) ?_) some
    · exact ⟨_, h.authMethods_eq (mem_guarded hplaced hguarded)⟩
    · rintro _ ⟨fault, rfl⟩
      exact ⟨guarded, fault, rfl, rfl⟩

theorem failsWith_planAuth (h : cfg.auth = true → graph.AllowsCatalog cfg) {placed : PlacedGroup}
    (hplaced : placed ∈ graph.placed) :
    (placed.planAuth cfg renderer).FailsWith Failure.OfRendering := by
  unfold PlacedGroup.planAuth
  by_cases hauth : cfg.auth = true
  · rw [if_pos hauth]
    refine .bind (((h hauth).failsWith_emitAuth? hplaced).imp ?_) fun auth _ => .ok _
    rintro _ ⟨guarded, fault, -, rfl⟩
    exact ⟨_, _, _, rfl⟩
  · rw [if_neg hauth]
    exact .ok _

theorem failsWith_planShared :
    (graph.planShared cfg renderer).FailsWith fun failure =>
      failure.OfRendering ∨ cfg.auth = true ∧ graph.denialGroups cfg = .error failure := by
  unfold planShared
  by_cases hauth : cfg.auth = true
  · rw [if_pos hauth]
    refine .bind (.bind (.bind ?_ fun groups _ => .ok _) fun catalog _ => ?_) fun catalog hcatalog => ?_
    · exact fun failure hfailure => .inr ⟨hauth, hfailure⟩
    · exact (Renderer.failsOfRendering_render _ _ _ _).imp fun _ => .inl
    · obtain ⟨policy, hpolicy⟩ := (allowsCatalog_of_emitErrorCatalog hcatalog).exists_emitPolicyTable
      rw [hpolicy]
      exact .ok _
  · rw [if_neg hauth]
    exact .ok _

/-! ### Identifiers derived twice -/

/-- The failure is not about an identifier derived twice, or the catalog pass reports it. -/
def TwiceInCatalog (graph : RouteGraph) (cfg : Config) (failure : Failure) : Prop :=
  failure.twice? = none ∨ cfg.auth = true ∧ graph.denialGroups cfg = .error failure

theorem findsNothingTwice_plan_placed (h : cfg.auth = true → graph.AllowsCatalog cfg)
    {placed : PlacedGroup} (hplaced : placed ∈ graph.placed) :
    FindsNothingTwice (placed.plan cfg naming renderer) := by
  refine .bind ?_ fun auth _ => placed.findsNothingTwice_planHandlers.bind fun handlers _ => .ok _
  exact (failsWith_planAuth h hplaced).imp fun _ => Failure.OfRendering.twice?_eq_none

theorem twiceInCatalog_of_planOwned :
    (graph.planOwned cfg naming renderer).FailsWith (graph.TwiceInCatalog cfg) := by
  refine .bind (failsWith_planShared.imp ?_) fun shared hshared => ?_
  · exact fun failure hfailure => hfailure.imp_left Failure.OfRendering.twice?_eq_none
  · refine .bind (.mapM fun placed hplaced => ?_) fun groups _ => .ok _
    exact (findsNothingTwice_plan_placed (allowsCatalog_of_planShared hshared) hplaced).imp fun _ => .inl

theorem failsWith_plan {registry : TemplateRegistry} {engine : Template.Engine} :
    (graph.plan cfg registry engine).FailsWith (graph.TwiceInCatalog cfg) := by
  intro failure h
  obtain hnaming | ⟨naming, -, hcompile | ⟨renderer, -, howned | ⟨owned, -, hcollision⟩⟩⟩ :=
    plan_eq_error_iff.1 h
  · obtain ⟨_, _, rfl⟩ := cfg.failsWith_naming failure hnaming
    exact .inl rfl
  · obtain ⟨_, _, rfl⟩ := registry.failsWith_compile engine failure hcompile
    exact .inl rfl
  · exact twiceInCatalog_of_planOwned failure howned
  · obtain ⟨_, _, _, rfl⟩ := eq_artifactCollision_of_collision? hcollision
    exact .inl rfl

theorem denies_of_name? {place : Catalog.Place} (hplace : place ∈ graph.catalogPlaces cfg)
    {name : String} {ref : RouteRef} (h : place.name? cfg = some (name, ref)) :
    graph.Denies cfg name ref := by
  obtain ⟨p, hp, hplace⟩ := List.mem_flatMap.1 hplace
  obtain rfl | hentry := List.mem_cons.1 hplace
  · cases h
  · obtain ⟨q, hq, rfl⟩ := List.mem_map.1 hentry
    cases h
    exact ⟨p.1, List.fst_mem_of_mem_zipIdx hp, q, hq, rfl, rfl⟩

/-- Both routes that the catalog pass reports have a denial of the reported name. -/
theorem denies_of_denialGroups {identifier : String} {first second : RouteRef}
    (h : graph.denialGroups cfg = .error (.duplicateIdentifier identifier first second)) :
    graph.Denies cfg identifier first ∧ graph.Denies cfg identifier second := by
  obtain ⟨before, place, after, hplaces, -, hplace⟩ :=
    Catalog.firstFailure_eq_some_iff.1 (firstFailure_of_denialGroups h)
  rw [List.nil_append] at hplace
  obtain ⟨hname, htaken⟩ : place.name? cfg = some (identifier, second) ∧
      (identifier, first) ∈ Catalog.takenNames cfg before :=
    place.names_of_failure? hplace
  obtain ⟨earlier, hearlier, hname'⟩ := List.mem_filterMap.1 htaken
  constructor
  · apply denies_of_name? _ hname'
    rw [hplaces]
    exact List.mem_append_left _ hearlier
  · apply denies_of_name? _ hname
    rw [hplaces]
    exact List.mem_append_right _ List.mem_cons_self

end RouteGraph

end Steps

/-- A graph with a catalog has policy rows and methods. A plan with authorization that finds an identifier
derived twice has it from the catalog pass, as the denial of two routes; and after the catalog there is no
failure of the policy table, nor one of an interface but in its template. -/
theorem RouteGraph.catalog_subsumes (graph : RouteGraph) (cfg : Config) :
    ((∃ groups, graph.denialGroups cfg = .ok groups) →
      (∃ rows, graph.policyRows cfg = .ok rows) ∧
        ∀ guarded ∈ graph.guarded cfg, ∃ methods, guarded.authMethods cfg = .ok methods) ∧
    (∀ registry engine identifier first second,
      graph.plan cfg registry engine = .error (.duplicateIdentifier identifier first second) →
        cfg.auth = true ∧
          graph.denialGroups cfg = .error (.duplicateIdentifier identifier first second) ∧
            graph.Denies cfg identifier first ∧ graph.Denies cfg identifier second) ∧
    ∀ renderer, (∃ catalog, graph.emitErrorCatalog cfg renderer = .ok catalog) →
      (∃ policy, graph.emitPolicyTable cfg = .ok policy) ∧
        ∀ placed ∈ graph.placed, ∀ failure, placed.emitAuth? cfg renderer = .error failure →
          ∃ guarded fault, placed.guarded? cfg = some guarded ∧
            failure = .templateRender Template.BuiltIn.authName guarded.subject.authPath fault := by
  refine ⟨fun ⟨groups, hgroups⟩ => ?_, fun registry engine identifier first second hplan => ?_,
    fun renderer ⟨catalog, hcatalog⟩ => ?_⟩
  · have hallows : graph.AllowsCatalog cfg := (denialGroups_eq_ok_iff.1 hgroups).1
    exact ⟨⟨_, hallows.policyRows_eq⟩, fun guarded hguarded => ⟨_, hallows.authMethods_eq hguarded⟩⟩
  · obtain hnone | ⟨hauth, hgroups⟩ := failsWith_plan _ hplan
    · cases hnone
    · exact ⟨hauth, hgroups, denies_of_denialGroups hgroups⟩
  · have hallows := allowsCatalog_of_emitErrorCatalog hcatalog
    exact ⟨hallows.exists_emitPolicyTable, fun placed => hallows.failsWith_emitAuth?⟩

/-- A group that guards users, with two routes of one base. -/
def twinGraph : RouteGraph where
  groups :=
    [{ annotations := .ofList [("group", "users")]
       routes := [{ handler := "create" }, { handler := "createHandler" }] }]

theorem twinGraph_catalog_subsumes :
    (∃ groups, usersGraph.denialGroups {} = .ok groups) ∧
      (∃ rows, usersGraph.policyRows {} = .ok rows) ∧
        ∃ first second, twinGraph.plan {} plainTemplates =
            .error (.duplicateIdentifier "ErrUserCreateDenied" first second) ∧
          twinGraph.Denies {} "ErrUserCreateDenied" first ∧
            twinGraph.Denies {} "ErrUserCreateDenied" second := by
  have hgroups : ∃ groups, usersGraph.denialGroups {} = .ok groups :=
    Except.isOk_eq_true_iff.1 (by decide +kernel)
  have hplan : twinGraph.plan {} plainTemplates = .error (.duplicateIdentifier "ErrUserCreateDenied"
      ⟨"users", 0, "create"⟩ ⟨"users", 1, "createHandler"⟩) := by
    decide +kernel
  exact ⟨hgroups, ((usersGraph.catalog_subsumes {}).1 hgroups).1, _, _, hplan,
    ((twinGraph.catalog_subsumes {}).2.1 _ _ _ _ _ hplan).2.2⟩

end RouteScaffold
