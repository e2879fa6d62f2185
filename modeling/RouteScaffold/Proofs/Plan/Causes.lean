import RouteScaffold.Proofs.Catalog.Denials
import RouteScaffold.Proofs.Plan.Success
import RouteScaffold.Proofs.Template.BuiltIn

/-!
# Where failures come from

With a complete renderer no template is ever to blame: each step of a plan either succeeds or finds a
fault of its own.
-/

namespace RouteScaffold

/-- A failed step found the fault itself and passes on none of a template or a file. -/
def Causeless {α : Type} (x : Except Failure α) : Prop :=
  ∀ failure, x = .error failure → failure.cause? = none

namespace Causeless

variable {α β : Type}

theorem ok (a : α) : Causeless (.ok a) :=
  Except.FailsWith.ok a

theorem error {failure : Failure} (h : failure.cause? = none) :
    Causeless (.error failure : Except Failure α) :=
  Except.FailsWith.error h

theorem bind {x : Except Failure α} {f : α → Except Failure β} (hx : Causeless x)
    (hf : ∀ a, Causeless (f a)) : Causeless (x >>= f) :=
  Except.FailsWith.bind hx fun a _ => hf a

theorem map {x : Except Failure α} (hx : Causeless x) (f : α → β) : Causeless (x.map f) :=
  Except.FailsWith.map hx f

theorem mapM {f : α → Except Failure β} (hf : ∀ x, Causeless (f x)) (xs : List α) :
    Causeless (xs.mapM f) :=
  Except.FailsWith.mapM fun x _ => hf x

end Causeless

/-! ### What a step can fail with -/

theorem Config.failsWith_naming (cfg : Config) :
    cfg.naming.FailsWith fun failure => ∃ format fault, failure = .configuration format fault := by
  unfold Config.naming Naming.NamingFormat.ofText
  simp only
  split
  · exact .ok _
  · cases Naming.NamingFormat.parse (Text.trim cfg.namingFormat) with
    | ok naming => exact .ok _
    | error fault => exact .error ⟨_, _, rfl⟩

theorem PlacedGroup.failsWith_baseName (placed : PlacedGroup) (cfg : Config) (routeIndex : Nat)
    (route : Route) :
    (placed.baseName cfg routeIndex route).FailsWith fun failure =>
      ∃ fault, failure = .namingResolution (placed.routeRef cfg routeIndex route) fault := by
  unfold baseName
  split
  · exact .ok _
  · exact .error ⟨_, rfl⟩

theorem TemplateRegistry.failsWith_compile (registry : TemplateRegistry)
    (engine : Template.Engine) :
    (registry.compile engine).FailsWith fun failure =>
      ∃ template fault, failure = .templateCompile template fault := by
  refine .bind (.mapM fun entry _ => ?_) fun templates _ => .ok _
  unfold compileEntry
  split
  · exact .ok _
  · exact .error ⟨_, _, rfl⟩

theorem Renderer.failsWith_render (renderer : Renderer) (kind : ArtifactKind) (template : String)
    (path : Path) (data : Template.Scope) :
    (renderer.render kind template path data).FailsWith fun failure =>
      ∃ fault, failure = .templateRender template path fault := by
  unfold render
  split
  · exact .ok _
  · exact .error ⟨_, rfl⟩

theorem eq_artifactCollision_of_collision? {seen : List (List Component × Owner)}
    {owned : List OwnedArtifact} {failure : Failure} (h : collision? seen owned = some failure) :
    ∃ path first second, failure = .artifactCollision path first second := by
  induction owned generalizing seen with
  | nil => cases h
  | cons entry rest ih =>
    unfold collision? at h
    simp only at h
    split at h
    · cases h
      exact ⟨_, _, _, rfl⟩
    · exact ih h

section Steps

variable (cfg : Config) (naming : Naming.NamingFormat)

theorem Config.causeless_naming : Causeless cfg.naming := by
  refine cfg.failsWith_naming.imp ?_
  rintro _ ⟨_, _, rfl⟩
  rfl

theorem PlacedGroup.causeless_baseName (placed : PlacedGroup) (routeIndex : Nat) (route : Route) :
    Causeless (placed.baseName cfg routeIndex route) := by
  refine (placed.failsWith_baseName cfg routeIndex route).imp ?_
  rintro _ ⟨_, rfl⟩
  rfl

theorem GuardedGroup.causeless_authMethodsFrom (guarded : GuardedGroup)
    (seen : List (String × RouteRef)) (routes : List (Nat × Route)) :
    Causeless (guarded.authMethodsFrom cfg seen routes) := by
  induction routes generalizing seen with
  | nil => exact .ok _
  | cons p routes ih =>
    unfold authMethodsFrom
    refine (guarded.causeless_baseName cfg p.1 p.2).bind fun base => ?_
    simp only
    split
    · exact .error rfl
    · exact (ih _).bind fun methods => .ok _

theorem RouteGraph.causeless_denialGroups (graph : RouteGraph) :
    Causeless (graph.denialGroups cfg) := by
  intro failure h
  obtain ⟨_, place, _, -, -, hplace⟩ :=
    Catalog.firstFailure_eq_some_iff.1 (firstFailure_of_denialGroups h)
  obtain ⟨_, _, rfl⟩ | ⟨_, _, rfl⟩ | ⟨_, _, rfl⟩ | ⟨_, _, _, rfl⟩ := place.failure?_cases hplace
  all_goals rfl

theorem RouteGraph.causeless_policyRows (graph : RouteGraph) :
    Causeless (graph.policyRows cfg) := by
  refine (Causeless.mapM (fun guarded => ?_) _).bind fun rows => .ok _
  refine (Causeless.mapM (fun p => ?_) _).bind fun rows => .ok _
  exact (guarded.causeless_baseName cfg p.1 p.2).bind fun base => .ok _

end Steps

section Emitters

variable {cfg : Config} {naming : Naming.NamingFormat} {renderer : Renderer}

theorem Renderer.causeless_render {template : String} {data : Template.Scope}
    (h : ∃ s, renderer.text template data = .ok s) (kind : ArtifactKind) (path : Path) :
    Causeless (renderer.render kind template path data) := by
  obtain ⟨s, hs⟩ := h
  rw [render_eq_ok_iff.2 ⟨s, hs, rfl⟩]
  exact .ok _

theorem PlacedGroup.causeless_plan (placed : PlacedGroup) (hrenderer : renderer.Complete) :
    Causeless (placed.plan cfg naming renderer) := by
  have hauth : Causeless (placed.planAuth cfg renderer) := by
    unfold planAuth
    split
    · refine .bind ?_ fun auth => .ok _
      unfold emitAuth?
      split
      · exact .ok _
      · refine .map (.bind ?_ fun face => ?_) some
        · exact (GuardedGroup.causeless_authMethodsFrom cfg _ [] _).bind fun methods => .ok _
        · exact Renderer.causeless_render (hrenderer.auth face) _ _
    · exact .ok _
  have hhandlers : Causeless (placed.planHandlers cfg naming renderer) := by
    refine .mapM (fun p => ?_) _
    refine .bind (.bind ?_ fun plan => ?_) fun artifact => .ok _
    · exact (placed.causeless_baseName cfg p.1 p.2).bind fun base => .ok _
    · exact Renderer.causeless_render (hrenderer.handler plan.data) _ _
  exact hauth.bind fun auth => hhandlers.bind fun handlers => .ok _

theorem RouteGraph.causeless_planOwned (graph : RouteGraph) (hrenderer : renderer.Complete) :
    Causeless (graph.planOwned cfg naming renderer) := by
  have hshared : Causeless (graph.planShared cfg renderer) := by
    unfold planShared
    split
    · refine .bind (.bind ?_ fun catalog => ?_) fun catalog => .bind ?_ fun policy => .ok _
      · exact (graph.causeless_denialGroups cfg).bind fun groups => .ok _
      · exact Renderer.causeless_render (hrenderer.authError catalog) _ _
      · exact (graph.causeless_policyRows cfg).bind fun rows => .ok _
    · exact .ok _
  have hgroups : Causeless (graph.placed.mapM (·.plan cfg naming renderer)) :=
    .mapM (fun placed => placed.causeless_plan hrenderer) _
  exact hshared.bind fun shared => hgroups.bind fun groups => .ok _

theorem RouteGraph.causeless_plan (graph : RouteGraph) {registry : TemplateRegistry}
    {engine : Template.Engine} (hcompile : registry.compile engine = .ok renderer)
    (hrenderer : renderer.Complete) :
    Causeless (graph.plan cfg registry engine) := by
  intro failure h
  obtain hnaming | ⟨naming, -, hfault | ⟨_, hcompile', howned | ⟨owned, -, hcollision⟩⟩⟩ :=
    plan_eq_error_iff.1 h
  · exact Config.causeless_naming cfg failure hnaming
  · rw [hcompile] at hfault
    cases hfault
  · rw [hcompile] at hcompile'
    cases hcompile'
    exact graph.causeless_planOwned hrenderer failure howned
  · obtain ⟨_, _, _, rfl⟩ := eq_artifactCollision_of_collision? hcollision
    rfl

end Emitters

end RouteScaffold
