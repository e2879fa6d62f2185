import RouteScaffold.Proofs.Generation.Obstruction
import RouteScaffold.Proofs.Plan.Separation

/-!
# Plans on a disk

A plan without `..` and with all files apart is written to an empty directory as it was planned. The check of
a plan does not make sure of the second: a folder may bear the name of a file.

The main statement is `realisable_iff`.
-/

namespace RouteScaffold

namespace Path

variable {path other : Path}

/-- A path that stays below any root consists of its names. -/
theorem Confined.components_eq (h : path.Confined) :
    path.components = (named path.segments).map .name := by
  have hnames : path.components = path.names := by
    have hbelow := h.below ⟨"root"⟩
    rw [components_join h.relative (by decide)] at hbelow
    exact (List.append_cancel_left hbelow).symm
  rw [hnames]
  refine List.map_congr_left fun segment hsegment => ?_
  have hcomponent : componentOf segment ≠ .parent := by
    intro hparent
    apply h.noParent
    rw [hnames, ← hparent]
    exact List.mem_map_of_mem hsegment
  unfold componentOf at hcomponent ⊢
  split
  case isTrue hsame =>
    rw [if_pos hsame] at hcomponent
    exact absurd rfl hcomponent
  case isFalse => rfl

theorem Confined.resolved_eq (h : path.Confined) : path.resolved = path.components := by
  refine resolved_eq_components ?_ h.noParent
  rw [h.components_eq]
  simp

theorem Confined.resolved_prefix_iff (h : path.Confined) (hother : other.Confined) :
    path.resolved <+: other.resolved ↔ named path.segments <+: named other.segments := by
  have hinjective : Function.Injective Component.name := fun _ _ hname => Component.name.inj hname
  rw [h.resolved_eq, hother.resolved_eq, h.components_eq, hother.components_eq]
  constructor
  · intro hstarts
    obtain ⟨front, hfront, heq⟩ := List.prefix_map_iff.1 hstarts
    rwa [hinjective.list_map heq]
  · exact fun hstarts => hstarts.map _

theorem exists_last_segment {c : Char} (hlast : path.text.toList.getLast? = some c) (hslash : c ≠ '/') :
    ∃ init name, path.segments = init ++ [name] ∧ name.toList.getLast? = some c := by
  obtain ⟨init, name, hsegments⟩ := path.segments.eq_nil_or_concat'.resolve_left segments_ne_nil
  refine ⟨init, name, hsegments, ?_⟩
  rw [← ofSegments_segments path, hsegments] at hlast
  by_cases hinit : init = []
  · rw [hinit] at hlast
    exact hlast
  · rw [text_ofSegments_append hinit (List.cons_ne_nil _ _), String.toList_append, List.getLast?_append]
      at hlast
    change (name.toList.getLast?).or _ = _ at hlast
    cases hname : name.toList.getLast? with
    | some d =>
      rw [hname] at hlast
      exact hlast
    | none =>
      rw [hname, String.toList_append, List.getLast?_append] at hlast
      exact absurd (Option.some.inj hlast).symm hslash

theorem Confined.leadsDown (h : path.Confined) {c : Char} (hlast : path.text.toList.getLast? = some c)
    (hslash : c ≠ '/') (hdot : c ≠ '.') (hlength : 2 ≤ path.components.length) :
    ∃ init name, path.LeadsDown init name := by
  obtain ⟨init, name, hsegments, hend⟩ := exists_last_segment hlast hslash
  have hnoise : isNoise name = false := by
    rw [isNoise, Bool.or_eq_false_iff, beq_eq_false_iff_ne, beq_eq_false_iff_ne]
    constructor
    · rintro rfl
      cases hend
    · rintro rfl
      exact hdot (Option.some.inj hend).symm
  have hdown : ∀ segment ∈ init ++ [name], segment ≠ ".." := by
    rintro _ hsegment rfl
    apply h.noParent
    rw [← hsegments] at hsegment
    have hnamed : ".." ∈ path.segments.filter (!isNoise ·) :=
      List.mem_filter.2 ⟨hsegment, by decide⟩
    exact List.mem_append_right _ (List.mem_map_of_mem hnamed)
  refine ⟨init, name, h.relative, hsegments, hdown, hnoise, ?_⟩
  intro hnil
  rw [h.components_eq, List.length_map, hsegments, named_append, named_singleton hnoise, hnil]
    at hlength
  simp at hlength

theorem getLast?_join (base : Path) {rest : Path} {c : Char} (h : rest.text.toList.getLast? = some c) :
    (base.join rest).text.toList.getLast? = some c := by
  have happend : ∀ text : String, (text ++ rest.text).toList.getLast? = some c := by
    intro text
    rw [String.toList_append, List.getLast?_append, h]
    rfl
  unfold join
  split
  · exact h
  · split
    · exact happend base.text
    · exact happend (base.text ++ "/")

end Path

theorem Artifact.beside_iff {artifact other : Artifact} (h : artifact.path.Confined)
    (hother : other.path.Confined) : artifact.Beside other ↔ artifact.path.Apart other.path := by
  unfold Beside Path.Apart names
  rw [h.resolved_prefix_iff hother, hother.resolved_prefix_iff h]

theorem Naming.goFile_notMem_handlerFolder {group : Group} {route : Route} {cfg : Config}
    (hfolders : ∀ part ∈ folderSegments group route cfg, ¬ ".go".toList <:+ part) (stem : String) :
    .name (stem ++ ".go") ∉ (Path.mk (handlerFolder group route cfg)).components := by
  have hroot : ∀ text : String, text.toList.getLast? ≠ some 'o' →
      Component.name (stem ++ ".go") ≠ .name text := by
    intro text hlast hname
    rw [← Component.name.inj hname] at hlast
    exact hlast (getLast?_goFile stem)
  rw [components_handlerFolder]
  intro h
  rcases List.mem_append.1 h with h | h
  · rcases List.mem_pair.1 h with h | h
    · exact hroot "internal" (by decide) h
    · exact hroot "handler" (by decide) h
  · obtain ⟨segment, hsegment, hname⟩ := List.mem_map.1 h
    obtain ⟨part, hpart, rfl⟩ := List.mem_map.1 (List.mem_of_mem_filter hsegment)
    unfold Path.componentOf at hname
    split at hname
    · cases hname
    · apply hfolders part hpart
      have hchars := congrArg String.toList (Component.name.inj hname)
      rw [String.toList_ofList, String.toList_append] at hchars
      rw [hchars]
      exact List.suffix_append _ _

namespace RouteGraph

variable {graph : RouteGraph} {cfg : Config} {naming : Naming.NamingFormat}

theorem leadsDown_of_mem_fixedPaths {path : Path} (h : path ∈ graph.fixedPaths cfg) :
    ∃ init name, path.LeadsDown init name := by
  have hlength : 2 ≤ path.components.length := by
    rcases components_of_mem_fixedPaths h with ⟨file, hpath⟩ | hpath <;> simp [hpath]
  rcases List.mem_append.1 h with hshared | hauth
  · have hconfined := confined_sharedPath hshared
    unfold sharedPaths at hshared
    split at hshared
    · rcases List.mem_pair.1 hshared with rfl | rfl
      · have hlast : errorCatalogPath.text.toList.getLast? = some 'o' := by decide +kernel
        exact hconfined.leadsDown hlast (by decide) (by decide) hlength
      · have hlast : policyTablePath.text.toList.getLast? = some 'v' := by decide +kernel
        exact hconfined.leadsDown hlast (by decide) (by decide) hlength
    · cases hshared
  · have hconfined := confined_of_mem_authPaths hauth
    have hlast : path.text.toList.getLast? = some 'o' := by
      unfold authPaths at hauth
      split at hauth
      · obtain ⟨guarded, -, rfl⟩ := List.mem_map.1 hauth
        exact Path.getLast?_join _ (getLast?_goFile _)
      · cases hauth
    exact hconfined.leadsDown hlast (by decide) (by decide) hlength

theorem leadsDown_of_mem_plansAt {plan : HandlerPlan} (h : plan ∈ graph.plansAt cfg naming)
    (hconfined : plan.path.Confined) : ∃ init name, plan.path.LeadsDown init name := by
  have hlast : ∀ plan ∈ graph.plansAt cfg naming, plan.path.text.toList.getLast? = some 'o' :=
    forall_mem_plansAt.2 fun _ _ _ _ => Path.getLast?_join _ (getLast?_goFile _)
  have hlength : 2 ≤ plan.path.components.length := by
    obtain ⟨names, -, hplace | hplace⟩ := components_of_mem_plansAt h
    · simp [hplace]
    · -- an absolute path does not stay below a root
      have hroot : .root ∈ plan.path.components := by simp [hplace]
      rw [hconfined.components_eq] at hroot
      simp at hroot
  exact hconfined.leadsDown (hlast plan h) (by decide) (by decide) hlength

theorem mem_plannedPaths_of_slots {artifacts : List Artifact}
    (hslots : artifacts.map Artifact.slot = graph.slots cfg naming) {artifact : Artifact}
    (hartifact : artifact ∈ artifacts) : artifact.path ∈ graph.plannedPaths cfg naming := by
  rw [← map_snd_slots, ← hslots, List.map_map]
  exact List.mem_map_of_mem hartifact

theorem leadsDown_of_plan {registry : TemplateRegistry} {engine : Template.Engine}
    {artifacts : List Artifact} (hplan : graph.plan cfg registry engine = .ok artifacts)
    (hconfined : ∀ artifact ∈ artifacts, artifact.path.Confined) :
    ∀ artifact ∈ artifacts, ∃ init name, artifact.path.LeadsDown init name := by
  intro artifact hartifact
  obtain ⟨naming, -, hslots⟩ := slots_of_plan hplan
  have hpath := mem_plannedPaths_of_slots hslots hartifact
  rw [perm_plannedPaths.mem_iff, List.mem_append, ← map_path_plansAt] at hpath
  rcases hpath with hfixed | hhandler
  · exact leadsDown_of_mem_fixedPaths hfixed
  · obtain ⟨plan, hmem, hsame⟩ := List.mem_map.1 hhandler
    rw [← hsame]
    apply leadsDown_of_mem_plansAt hmem
    rw [hsame]
    exact hconfined artifact hartifact

/-- A disk that bears all artifacts shows that they can be there at once. -/
theorem realisable_of_bears {artifacts : List Artifact} {tree : FileTree} {place : Place}
    (hconfined : ∀ artifact ∈ artifacts, artifact.path.Confined)
    (hdown : ∀ artifact ∈ artifacts, ∃ init name, artifact.path.LeadsDown init name)
    (hplaces : (artifacts.map fun artifact => artifact.path.components).Nodup)
    (hbears : ∀ artifact ∈ artifacts, tree.Bears place artifact) : Realisable artifacts := by
  have hnames : ∀ artifact ∈ artifacts, artifact.names ≠ [] := by
    intro artifact hartifact
    obtain ⟨init, name, hleads⟩ := hdown artifact hartifact
    simp [hleads.names_eq]
  have hstarts : ∀ artifact ∈ artifacts, ∀ other ∈ artifacts, artifact.names ≠ other.names →
      ¬ artifact.names <+: other.names := by
    intro artifact hartifact other hother hne hstarts
    apply (hbears artifact hartifact).not_above (hbears other hother)
    exact (List.prefix_dropLast_iff (hnames other hother)).2 ⟨hstarts, hne⟩
  apply (List.pairwise_map.1 hplaces).imp_of_mem
  intro artifact other hartifact hother hne
  have hother' : artifact.names ≠ other.names := by
    intro heq
    apply hne
    rw [(hconfined artifact hartifact).components_eq, (hconfined other hother).components_eq]
    exact congrArg (List.map Component.name) heq
  rw [← Artifact.beside_iff (hconfined artifact hartifact) (hconfined other hother)]
  exact ⟨hstarts artifact hartifact other hother hother',
    hstarts other hother artifact hartifact hother'.symm⟩

/-- A run that writes below `root`, and the desk after it. -/
def runAt (graph : RouteGraph) (cfg : Config) (registry : TemplateRegistry) (engine : Template.Engine)
    (root : Path) (desk : Desk) : Except Failure Report × Desk :=
  (graph.generate cfg registry (diskSink root) engine :
    ExceptT Failure (StateM Desk) Report).run.run desk

section Run

variable {registry : TemplateRegistry} {engine : Template.Engine} {artifacts : List Artifact}
  {desk : Desk} {root : Path} {place : Place}

/-- Into an empty directory, a plan that is realisable is written as it is. -/
theorem runAt_of_realisable (hplan : graph.plan cfg registry engine = .ok artifacts)
    (hconfined : ∀ artifact ∈ artifacts, artifact.path.Confined)
    (hempty : desk.files.EmptyAt root place)
    (hfits : ∀ artifact ∈ artifacts, (root.join artifact.path).Fits) (h : Realisable artifacts) :
    ∃ later, graph.runAt cfg registry engine root desk = (.ok (.ofArtifacts artifacts), later) ∧
      desk.files.Unpacked later.files place artifacts ∧
        ∀ artifact ∈ artifacts,
          later.files.readText (root.join artifact.path) = .ok artifact.contents := by
  have hdown := leadsDown_of_plan hplan hconfined
  have hbeside : ([] ++ artifacts).Pairwise Artifact.Beside := by
    apply h.imp_of_mem
    intro artifact other hartifact hother hapart
    exact (Artifact.beside_iff (hconfined artifact hartifact) (hconfined other hother)).2 hapart
  obtain ⟨later, hrun, hunpacked⟩ :=
    run_persistAll_diskSink hempty hempty.unpacked hdown hfits hbeside
  rw [List.nil_append] at hunpacked
  refine ⟨later, ?_, hunpacked, fun artifact hartifact => ?_⟩
  · unfold runAt
    rw [run_generate_of_ok hplan, run_bind_of_ok hrun]
    rfl
  · obtain ⟨init, name, hleads⟩ := hdown artifact hartifact
    exact hunpacked.readText hempty hartifact hleads (hfits artifact hartifact)

/-- A plan that is not realisable is refused by every disk, half-way. -/
theorem runAt_of_not_realisable (hplan : graph.plan cfg registry engine = .ok artifacts)
    (hconfined : ∀ artifact ∈ artifacts, artifact.path.Confined)
    (hempty : desk.files.EmptyAt root place)
    (hfits : ∀ artifact ∈ artifacts, (root.join artifact.path).Fits) (h : ¬ Realisable artifacts) :
    ∃ failure later, graph.runAt cfg registry engine root desk = (.error failure, later) := by
  have hdown := leadsDown_of_plan hplan hconfined
  unfold runAt
  rw [run_generate_of_ok hplan]
  rcases persistAll_cases (diskSink root) artifacts desk with
    ⟨later, -, hstores⟩ | ⟨_, _, _, failure, _, later, -, hrun, -, -⟩
  · obtain ⟨-, hbears⟩ := hstores.bears hempty.text_ne_empty hempty.leads hdown hfits
    exact absurd (realisable_of_bears hconfined hdown (nodup_places_of_plan hplan) hbears) h
  · exact ⟨failure, later, run_bind_of_error hrun⟩

end Run

/-- Folders that do not end in `.go` do not bear the name of a file. -/
theorem realisable_of_plain_folders {registry : TemplateRegistry} {engine : Template.Engine}
    {artifacts : List Artifact}
    (hplan : graph.plan cfg registry engine = .ok artifacts) (hnaming : cfg.naming = .ok naming)
    (hbelow : ∀ group ∈ graph.groups, ∀ route ∈ group.routes, Naming.StaysBelow cfg naming group route)
    (hfolders : ∀ group ∈ graph.groups, ∀ route ∈ group.routes,
      ∀ part ∈ Naming.folderSegments group route cfg, ¬ ".go".toList <:+ part) :
    Realisable artifacts := by
  have hplaced : ∀ plan ∈ graph.plansAt cfg naming, plan.path.Confined ∧ plan.Placed := by
    simpa only [forall_mem_plansAt, Naming.confined_and_placed_iff] using hbelow
  have hnamed : ∀ plan ∈ graph.plansAt cfg naming, ∃ stem, plan.fileName = stem ++ ".go" :=
    forall_mem_plansAt.2 fun _ _ _ _ => ⟨_, rfl⟩
  have hplain : ∀ plan ∈ graph.plansAt cfg naming, ∀ stem,
      .name (stem ++ ".go") ∉ (Path.mk plan.folder).components :=
    forall_mem_plansAt.2 fun group hgroup route hroute =>
      Naming.goFile_notMem_handlerFolder (hfolders group hgroup route hroute)
  refine (realisable_iff_of_noParent hplan hnaming fun plan hplan => ?_).2 ?_
  · exact (hplaced plan hplan).1.noParent
  · intro plan hplan other hother hstarts
    obtain ⟨stem, hstem⟩ := hnamed plan hplan
    rw [(hplaced plan hplan).2.file, (hplaced other hother).2.file, List.dropLast_concat, hstem]
      at hstarts
    exact hplain other hother stem (hstarts.subset (List.mem_append_right _ List.mem_cons_self))

/-- A plan can be realised exactly when its handlers do not get into the way of each other or of the fixed
files. Without `..` this means that no file bears the name of a folder, and folders that do not end in `.go`
make sure of it. Then a run into an empty directory writes what was planned, and otherwise it fails. -/
theorem realisable_iff {registry : TemplateRegistry} {engine : Template.Engine}
    {artifacts : List Artifact} (hplan : graph.plan cfg registry engine = .ok artifacts) :
    ∃ naming plans, cfg.naming = .ok naming ∧ graph.handlerPlans cfg naming = .ok plans ∧
      (Realisable artifacts ↔
        plans.Pairwise (fun plan other => plan.path.Apart other.path) ∧
          ∀ plan ∈ plans, ∀ path ∈ graph.fixedPaths cfg, path.Apart plan.path) ∧
      ((∀ plan ∈ plans, .parent ∉ plan.path.components) →
        (Realisable artifacts ↔ ∀ plan ∈ plans, ∀ other ∈ plans,
          ¬ plan.path.components <+: other.path.components.dropLast)) ∧
      ((∀ group ∈ graph.groups, ∀ route ∈ group.routes,
          Naming.StaysBelow cfg naming group route ∧
            ∀ part ∈ Naming.folderSegments group route cfg, ¬ ".go".toList <:+ part) →
        Realisable artifacts) ∧
      ((∀ artifact ∈ artifacts, artifact.path.Confined) →
        ∀ desk root place, desk.files.EmptyAt root place →
          (∀ artifact ∈ artifacts, (root.join artifact.path).Fits) →
            (Realisable artifacts → ∃ report later,
              graph.runAt cfg registry engine root desk = (.ok report, later) ∧
                desk.files.Unpacked later.files place artifacts ∧
                  ∀ artifact ∈ artifacts,
                    later.files.readText (root.join artifact.path) = .ok artifact.contents) ∧
            (¬ Realisable artifacts → ∃ failure later,
              graph.runAt cfg registry engine root desk = (.error failure, later))) := by
  have h : graph.Plannable cfg := plannable_of_plan hplan
  obtain ⟨naming, hnaming, hslots⟩ := slots_of_plan hplan
  have hplans : graph.handlerPlans cfg naming = .ok (graph.plansAt cfg naming) :=
    handlerPlans_eq_ok_iff.2 ⟨forall_mem_placed.2 h.bases, rfl⟩
  refine ⟨naming, _, hnaming, hplans, realisable_iff_handlers hslots (nodup_places_of_plan hplan),
    realisable_iff_of_noParent hplan hnaming, ?_, ?_⟩
  · intro hroutes
    apply realisable_of_plain_folders hplan hnaming
    · exact fun group hgroup route hroute => (hroutes group hgroup route hroute).1
    · exact fun group hgroup route hroute => (hroutes group hgroup route hroute).2
  · intro hconfined desk root place hempty hfits
    refine ⟨fun hrealisable => ?_, runAt_of_not_realisable hplan hconfined hempty hfits⟩
    obtain ⟨later, hrun, hunpacked, hread⟩ :=
      runAt_of_realisable hplan hconfined hempty hfits hrealisable
    exact ⟨_, later, hrun, hunpacked, hread⟩

end RouteGraph

theorem adminGraph_realisable_iff :
    ∃ artifacts report later, adminGraph.plan adminConfig plainTemplates = .ok artifacts ∧
      Realisable artifacts ∧
        adminGraph.runAt adminConfig plainTemplates .standard ⟨"."⟩ {} = (.ok report, later) ∧
          ∀ artifact ∈ artifacts,
            later.files.readText ((Path.mk ".").join artifact.path) = .ok artifact.contents := by
  obtain ⟨artifacts, hplan⟩ := exists_plan_adminGraph
  obtain ⟨naming, hsame, hslots⟩ := RouteGraph.slots_of_plan hplan
  obtain ⟨naming, plans, hnaming, -, -, -, hplain, hdisk⟩ := RouteGraph.realisable_iff hplan
  have hdefault : adminConfig.naming = .ok {} := by decide +kernel
  cases hdefault.symm.trans hnaming
  cases hdefault.symm.trans hsame
  have hplanned : ∀ path ∈ adminGraph.plannedPaths adminConfig {},
      (path.components.head? = some (.name "internal") ∨
          path.components.head? = some (.name "etc")) ∧
        .parent ∉ path.components ∧ ((Path.mk ".").join path).Fits := by
    decide +kernel
  have hpaths := fun artifact (hartifact : artifact ∈ artifacts) =>
    hplanned artifact.path (RouteGraph.mem_plannedPaths_of_slots hslots hartifact)
  have hfolders : ∀ group ∈ adminGraph.groups, ∀ route ∈ group.routes,
      ['.', '.'] ∉ Naming.folderSegments group route adminConfig ∧
        ∀ part ∈ Naming.folderSegments group route adminConfig, ¬ ".go".toList <:+ part := by
    decide +kernel
  have hrealisable : Realisable artifacts := by
    apply hplain
    intro group hgroup route hroute
    obtain ⟨hparent, hending⟩ := hfolders group hgroup route hroute
    exact ⟨⟨hparent, by decide, by decide, fun hslash => absurd hslash (by decide)⟩, hending⟩
  have hconfined : ∀ artifact ∈ artifacts, artifact.path.Confined := by
    intro artifact hartifact
    obtain ⟨hhead, hparent, -⟩ := hpaths artifact hartifact
    exact hhead.elim (Path.confined_of_head · hparent) (Path.confined_of_head · hparent)
  have hfits : ∀ artifact ∈ artifacts, ((Path.mk ".").join artifact.path).Fits :=
    fun artifact hartifact => (hpaths artifact hartifact).2.2
  obtain ⟨report, later, hrun, -, hread⟩ :=
    (hdisk hconfined {} ⟨"."⟩ ["work"] FileTree.emptyAt_fresh hfits).1 hrealisable
  exact ⟨artifacts, report, later, hplan, hrealisable, hrun, hread⟩

/-- A group for each folder, with one route of a common name. -/
def folderGraph (folders : List String) : RouteGraph where
  groups := folders.map fun folder =>
    { annotations := .ofList [("group", folder)], routes := [{ handler := "list" }] }

/-- By `..` two handlers get to one file, and a folder bears the name of a file. -/
theorem folderGraph_not_realisable :
    (∃ artifacts, (folderGraph ["a/../b", "b"]).plan {} plainTemplates = .ok artifacts ∧
      ¬ Realisable artifacts) ∧
    ∃ artifacts, (folderGraph ["", "listhandler.go"]).plan {} plainTemplates = .ok artifacts ∧
      ¬ Realisable artifacts := by
  constructor
  · obtain ⟨artifacts, hplan, hblocked⟩ : ∃ artifacts,
        (folderGraph ["a/../b", "b"]).plan {} plainTemplates = .ok artifacts ∧
          decide (¬ Realisable artifacts) = true :=
      Except.any_toOption_iff.1 (by decide +kernel)
    exact ⟨artifacts, hplan, of_decide_eq_true hblocked⟩
  · obtain ⟨artifacts, hplan, hblocked⟩ : ∃ artifacts,
        (folderGraph ["", "listhandler.go"]).plan {} plainTemplates = .ok artifacts ∧
          decide (¬ Realisable artifacts) = true :=
      Except.any_toOption_iff.1 (by decide +kernel)
    exact ⟨artifacts, hplan, of_decide_eq_true hblocked⟩

end RouteScaffold
