import RouteScaffold.Proofs.Plan.Acceptance
import RouteScaffold.Proofs.Plan.Attribution

/-!
# Faults of the naming format

The naming format is read once, before anything is planned, and no later step finds fault with it.

The main statement is `plan_eq_configuration_iff`.
-/

namespace RouteScaffold

/-- Blank, or a naming format. -/
def IsNamingFormat (format : String) : Prop :=
  Text.trim format = "" ∨ ∃ naming, Naming.NamingFormat.parse (Text.trim format) = .ok naming

/-- The failure is about the naming format. -/
def Failure.OfFormat (failure : Failure) : Prop :=
  ∃ format fault, failure = .configuration format fault

theorem Failure.OfRendering.not_ofFormat {failure : Failure} (h : failure.OfRendering) : ¬ failure.OfFormat := by
  obtain ⟨_, _, _, rfl⟩ := h
  rintro ⟨_, _, ⟨⟩⟩

namespace RouteGraph

variable {graph : RouteGraph} {cfg : Config} {naming : Naming.NamingFormat} {renderer : Renderer}

theorem failsWith_denialGroups : (graph.denialGroups cfg).FailsWith fun failure => ¬ failure.OfFormat := by
  intro failure h
  obtain ⟨_, place, _, -, -, hplace⟩ :=
    Catalog.firstFailure_eq_some_iff.1 (firstFailure_of_denialGroups h)
  obtain ⟨_, _, rfl⟩ | ⟨_, _, rfl⟩ | ⟨_, _, rfl⟩ | ⟨_, _, _, rfl⟩ := place.failure?_cases hplace
  all_goals rintro ⟨_, _, ⟨⟩⟩

theorem failsWith_planOwned :
    (graph.planOwned cfg naming renderer).FailsWith fun failure => ¬ failure.OfFormat := by
  refine .bind (failsWith_planShared.imp ?_) fun shared hshared =>
    .bind (.mapM fun placed hplaced => .bind ?_ fun auth _ => .bind ?_ fun handlers _ => .ok _)
      fun groups _ => .ok _
  · rintro failure (hrendering | ⟨-, hgroups⟩)
    · exact hrendering.not_ofFormat
    · exact failsWith_denialGroups failure hgroups
  · exact (failsWith_planAuth (allowsCatalog_of_planShared hshared) hplaced).imp
      fun _ => Failure.OfRendering.not_ofFormat
  · intro failure hhandlers
    obtain ⟨_, _, -, rfl⟩ | hrendering := PlacedGroup.planHandlers_error_cases hhandlers
    · rintro ⟨_, _, ⟨⟩⟩
    · exact hrendering.not_ofFormat

/-- A plan fails with a fault of the naming format exactly when the format is read with this fault. -/
theorem plan_eq_configuration_iff {registry : TemplateRegistry} {engine : Template.Engine}
    {format : String} {fault : Naming.FormatFault} :
    graph.plan cfg registry engine = .error (.configuration format fault) ↔
      cfg.naming = .error (.configuration format fault) := by
  rw [plan_eq_error_iff]
  constructor
  · rintro (hnaming | ⟨naming, -, hcompile | ⟨renderer, -, howned | ⟨owned, -, hcollision⟩⟩⟩)
    · exact hnaming
    · obtain ⟨_, _, hne⟩ := registry.failsWith_compile engine _ hcompile
      cases hne
    · exact absurd ⟨format, fault, rfl⟩ (failsWith_planOwned _ howned)
    · obtain ⟨_, _, _, hne⟩ := eq_artifactCollision_of_collision? hcollision
      cases hne
  · exact .inl

theorem plan_ne_configuration {registry : TemplateRegistry} {engine : Template.Engine}
    (hformat : IsNamingFormat cfg.namingFormat) (format : String) (fault : Naming.FormatFault) :
    graph.plan cfg registry engine ≠ .error (.configuration format fault) := by
  obtain ⟨naming, hnaming⟩ := Config.exists_naming_iff.2 hformat
  rw [Ne, plan_eq_configuration_iff, hnaming]
  exact nofun

end RouteGraph

end RouteScaffold
