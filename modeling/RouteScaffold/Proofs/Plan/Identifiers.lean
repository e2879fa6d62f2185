import Mathlib.Data.List.Flatten
import RouteScaffold.Proofs.Authorization.Identifiers
import RouteScaffold.Proofs.Plan.Confinement

/-!
# Identifiers kept apart by places

No check of a plan compares identifiers, only places are compared. A file name is made from the
identifier of its handler, and an interface file from its subject. So handlers of one folder and subjects
of one graph are told apart all the same, and no subject takes the place of the catalog.

The main statement is `identifiers_distinct`.
-/

namespace RouteScaffold

theorem Path.Same.join {base other : Path} (h : base.Same other) (hbase : base.components ≠ [])
    (rest : Path) : (base.join rest).Same (other.join rest) := by
  have hother : other.components ≠ [] := by
    rw [← h]
    exact hbase
  by_cases habsolute : rest.isAbsolute
  · simp [Path.join, habsolute, Path.Same]
  · have hrelative : rest.isAbsolute = false := by simpa using habsolute
    change (base.join rest).components = (other.join rest).components
    rw [components_join hrelative (mt components_of_text_eq_empty hbase),
      components_join hrelative (mt components_of_text_eq_empty hother), h]

namespace Naming

variable {cfg : Config} {naming : NamingFormat} {group : Group} {route : Route} {base : String}

theorem components_handlerFolder_ne_nil :
    (Path.mk (handlerFolder group route cfg)).components ≠ [] := by
  rw [components_handlerFolder]
  exact List.cons_ne_nil _ _

/-- The identifier of a handler decides the name of its file. -/
theorem fileName_handlerPlan :
    (handlerPlan cfg naming group route base).fileName =
      naming.apply (handlerPlan cfg naming group route base).data.handlerName ++ ".go" := rfl

end Naming

namespace RouteGraph

variable {graph : RouteGraph} {cfg : Config} {naming : Naming.NamingFormat}

/-- The plans of the handlers stand in graph order, one for each route, and no two of them lead to one
place. -/
theorem exists_handlerPlans {registry : TemplateRegistry} {engine : Template.Engine}
    {artifacts : List Artifact} (hplan : graph.plan cfg registry engine = .ok artifacts) :
    ∃ naming, cfg.naming = .ok naming ∧
      graph.handlerPlans cfg naming = .ok (graph.plansAt cfg naming) ∧
        (graph.plansAt cfg naming).Pairwise fun plan other => ¬ plan.path.Same other.path := by
  have h : graph.Plannable cfg := plannable_of_plan hplan
  obtain ⟨naming, hnaming⟩ := Config.exists_naming_iff.2 h.naming
  have hplaces : ((graph.plansAt cfg naming).map fun plan => plan.path.components).Nodup := by
    have hsublist := (graph.handlerPaths_sublist cfg naming).map Path.components
    rw [← map_path_plansAt, List.map_map] at hsublist
    exact (h.paths naming hnaming).sublist hsublist
  exact ⟨naming, hnaming, handlerPlans_eq_ok_iff.2 ⟨forall_mem_placed.2 h.bases, rfl⟩,
    List.pairwise_map.1 hplaces⟩

/-- In one folder, equal identifiers would make equal file names. -/
theorem handlerName_ne_of_same_folder {plan other : HandlerPlan}
    (hmem : plan ∈ graph.plansAt cfg naming) (hother : other ∈ graph.plansAt cfg naming)
    (hplaces : ¬ plan.path.Same other.path) (hfolder : (Path.mk plan.folder).Same ⟨other.folder⟩) :
    plan.data.handlerName ≠ other.data.handlerName := by
  intro hident
  have hnamed : ∀ plan ∈ graph.plansAt cfg naming,
      plan.fileName = naming.apply plan.data.handlerName ++ ".go" :=
    forall_mem_plansAt.2 fun _ _ _ _ => Naming.fileName_handlerPlan
  have hroot : ∀ plan ∈ graph.plansAt cfg naming, (Path.mk plan.folder).components ≠ [] :=
    forall_mem_plansAt.2 fun _ _ _ _ => Naming.components_handlerFolder_ne_nil
  apply hplaces
  unfold HandlerPlan.path
  rw [hnamed plan hmem, hnamed other hother, hident]
  exact hfolder.join (hroot plan hmem) _

/-- The interfaces and the catalog are files of one folder, each named by its stem. -/
theorem nodup_stems (h : graph.Plannable cfg) (hauth : cfg.auth = true) :
    ("error" :: (graph.guarded cfg).map fun guarded => guarded.subject.snake).Nodup := by
  obtain ⟨naming, hnaming⟩ := Config.exists_naming_iff.2 h.naming
  have hshared : [errorCatalogPath].Sublist (sharedPaths cfg) := by
    rw [sharedPaths, if_pos hauth]
    exact List.singleton_sublist.2 List.mem_cons_self
  have hgroups : (graph.authPaths cfg).Sublist
      (graph.placed.flatMap (·.plannedPaths cfg naming)) := by
    rw [← flatMap_authPaths]
    exact .flatMap_right _ fun placed _ => List.sublist_append_left _ _
  have hpaths : ((errorCatalogPath :: graph.authPaths cfg).map Path.components).Nodup :=
    (h.paths naming hnaming).sublist ((hshared.append hgroups).map Path.components)
  have hstems : (errorCatalogPath :: graph.authPaths cfg).map Path.components =
      ("error" :: (graph.guarded cfg).map fun guarded => guarded.subject.snake).map fun stem =>
        ((Path.mk Naming.authRoot).join ⟨stem ++ ".go"⟩).components := by
    rw [authPaths, if_pos hauth, List.map_cons, List.map_cons, List.map_map, List.map_map]
    rfl
  rw [hstems] at hpaths
  exact hpaths.of_map

/-- A plan keeps apart the handlers of every folder, the subjects of the graph, and the files of these
subjects, also from the catalog. -/
theorem identifiers_distinct {registry : TemplateRegistry} {engine : Template.Engine}
    {artifacts : List Artifact} (hplan : graph.plan cfg registry engine = .ok artifacts) :
    ∃ naming plans, cfg.naming = .ok naming ∧ graph.handlerPlans cfg naming = .ok plans ∧
      plans.Pairwise (fun plan other => (Path.mk plan.folder).Same ⟨other.folder⟩ →
        plan.data.handlerName ≠ other.data.handlerName) ∧
      (cfg.auth = true →
        ((graph.guarded cfg).map fun guarded => guarded.subject.ident).Nodup ∧
          ((graph.guarded cfg).map fun guarded => guarded.subject.snake).Nodup ∧
            ∀ guarded ∈ graph.guarded cfg, guarded.subject.snake ≠ "error") := by
  have h : graph.Plannable cfg := plannable_of_plan hplan
  obtain ⟨naming, hnaming, hplans, hplaces⟩ := exists_handlerPlans hplan
  refine ⟨naming, _, hnaming, hplans, ?_, fun hauth => ?_⟩
  · apply hplaces.imp_of_mem
    intro plan other hmem hother hne hfolder
    exact handlerName_ne_of_same_folder hmem hother hne hfolder
  · obtain ⟨herror, hstems⟩ := List.nodup_cons.1 (nodup_stems h hauth)
    refine ⟨nodup_idents h hauth, hstems, ?_⟩
    intro guarded hguarded hstem
    exact herror (List.mem_map.2 ⟨guarded, hguarded, hstem⟩)

end RouteGraph

/-- A plain group, and two guarded groups whose handlers share a folder. -/
def adminGraph : RouteGraph where
  groups :=
    [{ routes := [{ handler := "pingHandler" }] },
     { annotations := .ofList [("auth", "users"), ("folder", "admin")]
       routes := [{ handler := "listHandler" }, { handler := "create" }] },
     { annotations := .ofList [("auth", "roles"), ("folder", "admin/")]
       routes := [{ handler := "listRoles" }] }]

def adminConfig : Config := { annotations := { folder := "folder", auth := "auth" } }

theorem exists_plan_adminGraph :
    ∃ artifacts, adminGraph.plan adminConfig plainTemplates = .ok artifacts :=
  Except.isOk_eq_true_iff.1 (by decide +kernel)

theorem adminGraph_identifiers_distinct :
    ∃ artifacts naming plans, adminGraph.plan adminConfig plainTemplates = .ok artifacts ∧
      adminConfig.naming = .ok naming ∧ adminGraph.handlerPlans adminConfig naming = .ok plans ∧
        plans.Pairwise (fun plan other => (Path.mk plan.folder).Same ⟨other.folder⟩ →
          plan.data.handlerName ≠ other.data.handlerName) ∧
        ((adminGraph.guarded adminConfig).map fun guarded => guarded.subject.ident).Nodup ∧
          ((adminGraph.guarded adminConfig).map fun guarded => guarded.subject.snake).Nodup ∧
            ∀ guarded ∈ adminGraph.guarded adminConfig, guarded.subject.snake ≠ "error" := by
  obtain ⟨artifacts, hplan⟩ := exists_plan_adminGraph
  obtain ⟨naming, plans, hnaming, hplans, hhandlers, hsubjects⟩ :=
    RouteGraph.identifiers_distinct hplan
  exact ⟨artifacts, naming, plans, hplan, hnaming, hplans, hhandlers, hsubjects rfl⟩

end RouteScaffold
