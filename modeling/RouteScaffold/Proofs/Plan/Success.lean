import RouteScaffold.Proofs.Plan.Derived
import RouteScaffold.Proofs.Plan.Owners

/-!
# Success of a plan

A plan succeeds when all of its emitters do and no two paths meet. The lemmas follow the plan from
the outside in, for any templates of any language.
-/

namespace RouteScaffold

theorem Renderer.render_eq_ok_iff {renderer : Renderer} {kind : ArtifactKind} {template : String}
    {path : Path} {data : Template.Scope} {artifact : Artifact} :
    renderer.render kind template path data = .ok artifact ↔
      ∃ contents, renderer.text template data = .ok contents ∧
        artifact = { kind, path, contents } := by
  unfold render
  cases renderer.text template data with
  | error fault => simp
  | ok contents => simp [eq_comm]

namespace PlacedGroup

variable {placed : PlacedGroup} {cfg : Config} {naming : Naming.NamingFormat} {renderer : Renderer}

theorem plan_eq_ok_iff {owned : List OwnedArtifact} :
    placed.plan cfg naming renderer = .ok owned ↔
      ∃ auth, placed.planAuth cfg renderer = .ok auth ∧
        ∃ handlers, placed.planHandlers cfg naming renderer = .ok handlers ∧
          auth ++ handlers = owned := by
  unfold plan
  simp only [Except.bind_eq_ok_iff, Except.ok.injEq]

theorem hasBase_of_plan {owned : List OwnedArtifact}
    (h : placed.plan cfg naming renderer = .ok owned) :
    ∀ route ∈ placed.group.routes, route.HasBase := by
  obtain ⟨_, _, handlers, hhandlers, -⟩ := plan_eq_ok_iff.1 h
  intro route hroute
  rw [← map_snd_numbered 0 placed.group.routes, List.mem_map] at hroute
  obtain ⟨p, hp, rfl⟩ := hroute
  obtain ⟨owned, howned⟩ := Except.exists_ok_of_mapM_eq_ok hhandlers hp
  obtain ⟨artifact, hartifact, -⟩ := Except.bind_eq_ok_iff.1 howned
  obtain ⟨plan, hplan, -⟩ := Except.bind_eq_ok_iff.1 hartifact
  exact (handlerPlan_eq_ok_iff.1 hplan).1

theorem authMethods_of_plan (hauth : cfg.auth = true) {guarded : GuardedGroup}
    (hguarded : placed.guarded? cfg = some guarded) {owned : List OwnedArtifact}
    (h : placed.plan cfg naming renderer = .ok owned) :
    guarded.authMethods cfg = .ok (guarded.group.routes.map guarded.methodAt) := by
  obtain ⟨auth, hplanAuth, -⟩ := plan_eq_ok_iff.1 h
  unfold planAuth at hplanAuth
  rw [if_pos hauth] at hplanAuth
  obtain ⟨artifact, hartifact, -⟩ := Except.bind_eq_ok_iff.1 hplanAuth
  unfold emitAuth? at hartifact
  rw [hguarded] at hartifact
  obtain ⟨face, hface, -⟩ := Except.map_eq_ok_iff.1 hartifact
  obtain ⟨interface, hinterface, -⟩ := Except.bind_eq_ok_iff.1 hface
  obtain ⟨methods, hmethods, -⟩ := Except.bind_eq_ok_iff.1 hinterface
  rw [hmethods, (GuardedGroup.authMethods_eq_ok_iff.1 hmethods).2.1]

end PlacedGroup

namespace RouteGraph

variable {graph : RouteGraph} {cfg : Config} {naming : Naming.NamingFormat} {renderer : Renderer}

theorem planShared_eq_ok_iff (hauth : cfg.auth = true) {owned : List OwnedArtifact} :
    graph.planShared cfg renderer = .ok owned ↔
      ∃ catalog, graph.emitErrorCatalog cfg renderer = .ok catalog ∧
        ∃ policy, graph.emitPolicyTable cfg = .ok policy ∧
          [⟨catalog, .errorCatalog⟩, ⟨policy, .policyTable⟩] = owned := by
  unfold planShared
  rw [if_pos hauth]
  simp only [Except.bind_eq_ok_iff, Except.ok.injEq]

theorem planOwned_eq_ok_iff {owned : List OwnedArtifact} :
    graph.planOwned cfg naming renderer = .ok owned ↔
      ∃ shared, graph.planShared cfg renderer = .ok shared ∧
        ∃ groups, graph.placed.mapM (·.plan cfg naming renderer) = .ok groups ∧
          shared ++ groups.flatten = owned := by
  unfold planOwned
  simp only [Except.bind_eq_ok_iff, Except.ok.injEq]

theorem plan_eq_ok_iff {registry : TemplateRegistry} {engine : Template.Engine}
    {artifacts : List Artifact} :
    graph.plan cfg registry engine = .ok artifacts ↔
      ∃ naming renderer owned, cfg.naming = .ok naming ∧ registry.compile engine = .ok renderer ∧
        graph.planOwned cfg naming renderer = .ok owned ∧ collision? [] owned = none ∧
          artifacts = owned.map (·.artifact) := by
  rw [plan_eq]
  simp only [Except.bind_eq_ok_iff]
  constructor
  · rintro ⟨naming, hnaming, renderer, hrenderer, owned, howned, h⟩
    refine ⟨naming, renderer, owned, hnaming, hrenderer, howned, ?_⟩
    cases hcollision : collision? [] owned with
    | some failure =>
      rw [hcollision] at h
      cases h
    | none =>
      rw [hcollision] at h
      cases h
      exact ⟨rfl, rfl⟩
  · rintro ⟨naming, renderer, owned, hnaming, hrenderer, howned, hcollision, rfl⟩
    refine ⟨naming, hnaming, renderer, hrenderer, owned, howned, ?_⟩
    rw [hcollision]

/-- A plan fails at the naming format, at a template, at an emitter or at two equal paths, in this order. -/
theorem plan_eq_error_iff {registry : TemplateRegistry} {engine : Template.Engine} {failure : Failure} :
    graph.plan cfg registry engine = .error failure ↔ cfg.naming = .error failure ∨
      ∃ naming, cfg.naming = .ok naming ∧ (registry.compile engine = .error failure ∨
        ∃ renderer, registry.compile engine = .ok renderer ∧
          (graph.planOwned cfg naming renderer = .error failure ∨
            ∃ owned, graph.planOwned cfg naming renderer = .ok owned ∧
              collision? [] owned = some failure)) := by
  rw [plan_eq]
  simp only [Except.bind_eq_error_iff]
  refine or_congr_right (exists_congr fun naming => and_congr_right fun _ =>
    or_congr_right (exists_congr fun renderer => and_congr_right fun _ =>
      or_congr_right (exists_congr fun owned => and_congr_right fun _ => ?_)))
  cases collision? [] owned <;> simp

end RouteGraph

end RouteScaffold
