import Mathlib.Data.List.Perm.Basic
import RouteScaffold.Proofs.Path.Resolve
import RouteScaffold.Proofs.Plan.Identifiers

/-!
# Handlers in each other's way

The check of a plan compares paths as they are spelled. It does not resolve the `..` of a folder
annotation, and it does not see that a file of one handler stands where another needs a folder. Only
handlers can get into each other's way like this, or, by `..`, into the way of the shared files.
-/

namespace RouteScaffold

/-- All files can be there at once, each with contents of its own. -/
def Realisable (artifacts : List Artifact) : Prop :=
  artifacts.Pairwise fun artifact other => artifact.path.Apart other.path

instance (artifacts : List Artifact) : Decidable (Realisable artifacts) :=
  inferInstanceAs (Decidable (List.Pairwise _ _))

namespace Path

variable {base : Path}

theorem current_notMem_map_componentOf (segments : List String) :
    .current ∉ segments.map componentOf := by
  intro h
  obtain ⟨segment, -, hsegment⟩ := List.mem_map.1 h
  unfold componentOf at hsegment
  split at hsegment <;> cases hsegment

/-- A joined path starts where its base does, unless what is joined is absolute. -/
theorem components_join_cases (hbase : base.components ≠ []) (rest : Path) :
    ∃ names, .current ∉ names ∧ ((base.join rest).components = base.components ++ names ∨
      (base.join rest).components = .root :: names) := by
  by_cases habsolute : rest.isAbsolute
  · obtain ⟨t, ht⟩ := isAbsolute_eq_true_iff.1 habsolute
    refine ⟨(Path.mk (.ofList t)).names, current_notMem_map_componentOf _, .inr ?_⟩
    rw [join, habsolute, Bool.true_or, if_pos rfl, components_of_root ht]
  · have hrelative : rest.isAbsolute = false := by simpa using habsolute
    refine ⟨rest.names, current_notMem_map_componentOf _, .inl ?_⟩
    rw [components_join hrelative (mt components_of_text_eq_empty hbase)]

end Path

namespace Naming

variable {cfg : Config} {naming : NamingFormat} {group : Group} {route : Route} {base : String}

theorem components_path_handlerPlan_cases :
    ∃ names, .current ∉ names ∧
      ((handlerPlan cfg naming group route base).path.components =
          .name "internal" :: .name "handler" :: names ∨
        (handlerPlan cfg naming group route base).path.components = .root :: names) := by
  have hjoined : ∃ names, .current ∉ names ∧
      ((handlerPlan cfg naming group route base).path.components =
          (Path.mk (handlerFolder group route cfg)).components ++ names ∨
        (handlerPlan cfg naming group route base).path.components = .root :: names) :=
    Path.components_join_cases components_handlerFolder_ne_nil _
  obtain ⟨names, hnames, hpath⟩ := hjoined
  rcases hpath with hpath | hpath
  · rw [components_handlerFolder] at hpath
    refine ⟨_, fun h => ?_, .inl hpath⟩
    exact (List.mem_append.1 h).elim (Path.current_notMem_map_componentOf _) hnames
  · exact ⟨names, hnames, .inr hpath⟩

end Naming

namespace RouteGraph

variable {graph : RouteGraph} {cfg : Config} {naming : Naming.NamingFormat}

/-- The paths that neither a folder nor the naming format decides. -/
def fixedPaths (graph : RouteGraph) (cfg : Config) : List Path :=
  sharedPaths cfg ++ graph.authPaths cfg

theorem perm_plannedPaths :
    (graph.plannedPaths cfg naming).Perm (graph.fixedPaths cfg ++ graph.handlerPaths cfg naming) := by
  rw [fixedPaths, List.append_assoc, ← flatMap_authPaths]
  exact (List.flatMap_append_perm ..).symm.append_left (sharedPaths cfg)

theorem components_of_mem_fixedPaths {path : Path} (h : path ∈ graph.fixedPaths cfg) :
    (∃ file, path.components = [.name "internal", .name "auth", .name file]) ∨
      path.components = [.name "etc", .name "auth_policy.csv"] := by
  rcases List.mem_append.1 h with hshared | hauth
  · unfold sharedPaths at hshared
    split at hshared
    · rcases List.mem_pair.1 hshared with rfl | rfl
      · exact .inl ⟨"error.go", by decide +kernel⟩
      · exact .inr (by decide +kernel)
    · cases hshared
  · exact .inl (components_of_mem_authPaths hauth)

theorem resolved_of_mem_fixedPaths {path : Path} (h : path ∈ graph.fixedPaths cfg) :
    path.resolved = path.components := by
  rcases components_of_mem_fixedPaths h with ⟨file, hpath⟩ | hpath <;>
    exact Path.resolved_eq_components (by simp [hpath]) (by simp [hpath])

/-- Fixed paths of one folder are files of it, so none leads through another. -/
theorem eq_of_prefix_of_mem_fixedPaths {path other : Path} (h : path ∈ graph.fixedPaths cfg)
    (hother : other ∈ graph.fixedPaths cfg) (hstarts : path.components <+: other.components) :
    path.components = other.components := by
  rcases components_of_mem_fixedPaths h with ⟨file, hpath⟩ | hpath <;>
    rcases components_of_mem_fixedPaths hother with ⟨file', hpath'⟩ | hpath' <;>
      rw [hpath, hpath'] at hstarts ⊢ <;> simp_all

theorem apart_of_mem_fixedPaths {path other : Path} (h : path ∈ graph.fixedPaths cfg)
    (hother : other ∈ graph.fixedPaths cfg) (hne : path.components ≠ other.components) :
    path.Apart other := by
  unfold Path.Apart
  rw [resolved_of_mem_fixedPaths h, resolved_of_mem_fixedPaths hother]
  exact ⟨mt (eq_of_prefix_of_mem_fixedPaths h hother) hne,
    mt (eq_of_prefix_of_mem_fixedPaths hother h) hne.symm⟩

theorem components_of_mem_plansAt {plan : HandlerPlan} (hplan : plan ∈ graph.plansAt cfg naming) :
    ∃ names, .current ∉ names ∧
      (plan.path.components = .name "internal" :: .name "handler" :: names ∨
        plan.path.components = .root :: names) := by
  revert plan
  rw [forall_mem_plansAt]
  exact fun _ _ _ _ => Naming.components_path_handlerPlan_cases

/-- Without `..` a handler does not get near the fixed paths. -/
theorem apart_of_mem_plansAt {path : Path} (h : path ∈ graph.fixedPaths cfg) {plan : HandlerPlan}
    (hplan : plan ∈ graph.plansAt cfg naming) (hresolved : plan.path.resolved = plan.path.components) :
    path.Apart plan.path := by
  obtain ⟨names, -, hplace⟩ := components_of_mem_plansAt hplan
  unfold Path.Apart
  rw [resolved_of_mem_fixedPaths h, hresolved]
  rcases components_of_mem_fixedPaths h with ⟨file, hpath⟩ | hpath <;>
    rcases hplace with hplace | hplace <;> simp [hpath, hplace]

theorem resolved_of_mem_plansAt {plan : HandlerPlan} (hplan : plan ∈ graph.plansAt cfg naming)
    (hparent : .parent ∉ plan.path.components) : plan.path.resolved = plan.path.components := by
  have hcurrent : .current ∉ plan.path.components := by
    obtain ⟨names, hnames, hplace | hplace⟩ := components_of_mem_plansAt hplan <;>
      simp [hplace, hnames]
  exact Path.resolved_eq_components hcurrent hparent

theorem realisable_iff_map {artifacts : List Artifact} {paths : List Path}
    (hpaths : artifacts.map Artifact.path = paths) : Realisable artifacts ↔ paths.Pairwise Path.Apart := by
  rw [← hpaths, List.pairwise_map]
  rfl

/-- The fixed files have their own places, so what matters is where the handlers go. -/
theorem realisable_iff_handlers {artifacts : List Artifact}
    (hslots : artifacts.map Artifact.slot = graph.slots cfg naming)
    (hplaces : (artifacts.map fun artifact => artifact.path.components).Nodup) :
    Realisable artifacts ↔
      (graph.plansAt cfg naming).Pairwise (fun plan other => plan.path.Apart other.path) ∧
        ∀ plan ∈ graph.plansAt cfg naming, ∀ path ∈ graph.fixedPaths cfg, path.Apart plan.path := by
  have hpaths : artifacts.map Artifact.path = graph.plannedPaths cfg naming := by
    rw [← map_snd_slots, ← hslots, List.map_map]
    rfl
  have hnodup : ((graph.fixedPaths cfg ++ graph.handlerPaths cfg naming).map Path.components).Nodup := by
    rw [← (perm_plannedPaths.map Path.components).nodup_iff, ← hpaths, List.map_map]
    exact hplaces
  have hfixed : (graph.fixedPaths cfg).Pairwise Path.Apart := by
    rw [List.map_append] at hnodup
    have hdistinct := List.pairwise_map.1 hnodup.of_append_left
    apply hdistinct.imp_of_mem
    intro path other hpath hother hne
    exact apart_of_mem_fixedPaths hpath hother hne
  rw [realisable_iff_map hpaths, perm_plannedPaths.pairwise_iff Path.Apart.symm, List.pairwise_append,
    ← map_path_plansAt, List.pairwise_map]
  constructor
  · rintro ⟨-, hhandlers, hcross⟩
    exact ⟨hhandlers, fun plan hplan path hpath => hcross path hpath _ (List.mem_map_of_mem hplan)⟩
  · rintro ⟨hhandlers, hcross⟩
    refine ⟨hfixed, hhandlers, fun path hpath => List.forall_mem_map.2 fun plan hplan => ?_⟩
    exact hcross plan hplan path hpath

/-- Without `..` all that can go wrong is that a handler stands where another has a folder. -/
theorem pairwise_apart_iff
    (hplaces : (graph.plansAt cfg naming).Pairwise fun plan other => ¬ plan.path.Same other.path)
    (hresolved : ∀ plan ∈ graph.plansAt cfg naming, plan.path.resolved = plan.path.components) :
    (graph.plansAt cfg naming).Pairwise (fun plan other => plan.path.Apart other.path) ↔
      ∀ plan ∈ graph.plansAt cfg naming, ∀ other ∈ graph.plansAt cfg naming,
        ¬ plan.path.components <+: other.path.components.dropLast := by
  have hnonempty : ∀ plan ∈ graph.plansAt cfg naming, plan.path.components ≠ [] := by
    intro plan hplan
    obtain ⟨names, -, hplace | hplace⟩ := components_of_mem_plansAt hplan <;> simp [hplace]
  constructor
  · intro hapart plan hplan other hother hstarts
    obtain ⟨hstarts, hne⟩ := (List.prefix_dropLast_iff (hnonempty other hother)).1 hstarts
    have : Std.Symm fun plan other : HandlerPlan => plan.path.Apart other.path :=
      ⟨fun _ _ => Path.Apart.symm⟩
    have hplans : plan ≠ other := by
      rintro rfl
      exact hne rfl
    have hplace := (hapart.forall hplan hother hplans).1
    rw [hresolved plan hplan, hresolved other hother] at hplace
    exact hplace hstarts
  · intro hfolders
    apply hplaces.imp_of_mem
    intro plan other hplan hother hne
    unfold Path.Apart
    rw [hresolved plan hplan, hresolved other hother]
    refine ⟨fun hstarts => hfolders plan hplan other hother ?_,
      fun hstarts => hfolders other hother plan hplan ?_⟩
    · exact (List.prefix_dropLast_iff (hnonempty other hother)).2 ⟨hstarts, hne⟩
    · exact (List.prefix_dropLast_iff (hnonempty plan hplan)).2 ⟨hstarts, Ne.symm hne⟩

theorem realisable_iff_of_noParent {registry : TemplateRegistry} {engine : Template.Engine}
    {artifacts : List Artifact}
    (hplan : graph.plan cfg registry engine = .ok artifacts) (hnaming : cfg.naming = .ok naming)
    (hparent : ∀ plan ∈ graph.plansAt cfg naming, .parent ∉ plan.path.components) :
    Realisable artifacts ↔
      ∀ plan ∈ graph.plansAt cfg naming, ∀ other ∈ graph.plansAt cfg naming,
        ¬ plan.path.components <+: other.path.components.dropLast := by
  obtain ⟨naming, hsame, hslots⟩ := slots_of_plan hplan
  cases hnaming.symm.trans hsame
  obtain ⟨naming, hsame, -, hplaces⟩ := exists_handlerPlans hplan
  cases hnaming.symm.trans hsame
  have hresolved : ∀ plan ∈ graph.plansAt cfg naming, plan.path.resolved = plan.path.components :=
    fun plan hplan => resolved_of_mem_plansAt hplan (hparent plan hplan)
  rw [realisable_iff_handlers hslots (nodup_places_of_plan hplan), ←
    pairwise_apart_iff hplaces hresolved]
  refine and_iff_left fun plan hplan path hpath => ?_
  exact apart_of_mem_plansAt hpath hplan (hresolved plan hplan)

end RouteGraph

end RouteScaffold
