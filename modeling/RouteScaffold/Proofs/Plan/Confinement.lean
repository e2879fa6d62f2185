import RouteScaffold.Proofs.Authorization.Agreement
import RouteScaffold.Proofs.Naming.Subject
import RouteScaffold.Proofs.Naming.Words
import RouteScaffold.Proofs.Path.Components
import RouteScaffold.Proofs.Plan.Acceptance

/-!
# Artifacts below the output root

The folder of a handler comes from an annotation and the punctuation of its file name from the naming
format. Neither is checked, so a plan stays below the root only as long as no annotation has a `..`
segment and the format puts no slash into a file name. Everything else keeps its place by itself.

The main statement is `confined_iff`.
-/

namespace RouteScaffold

/-- A relative path without `..`, which is found below any root with its own components. -/
structure Path.Confined (path : Path) : Prop where
  relative : path.isAbsolute = false
  noParent : .parent ∉ path.components
  below : ∀ root : Path, (root.join path).components = root.components ++ path.components

theorem Path.confined_of_head {path : Path} {text : String}
    (h : path.components.head? = some (.name text)) (hparent : .parent ∉ path.components) :
    path.Confined where
  relative := isAbsolute_of_head h
  noParent := hparent
  below := components_join_of_head h

/-- The file stands in its folder, and the folder below the root of the handlers. -/
structure HandlerPlan.Placed (plan : HandlerPlan) : Prop where
  folder : [.name "internal", .name "handler"] <+: (Path.mk plan.folder).components
  file : plan.path.components = (Path.mk plan.folder).components ++ [.name plan.fileName]

theorem getLast?_goFile (stem : String) : (stem ++ ".go").toList.getLast? = some 'o' := by
  rw [String.toList_append, List.getLast?_append]
  rfl

/-- A file name that ends in `.go` is no `.` and no `..`, so all it needs is to be free of slashes. -/
theorem components_join_goFile {base : Path} {stem : String} (hbase : base.components ≠ [])
    (hslash : '/' ∉ (stem ++ ".go").toList) :
    (base.join ⟨stem ++ ".go"⟩).components = base.components ++ [.name (stem ++ ".go")] := by
  have hne : ∀ s : String, s.toList.getLast? ≠ some 'o' → stem ++ ".go" ≠ s := by
    rintro s hs rfl
    exact hs (getLast?_goFile stem)
  have hnoise : Path.isNoise (stem ++ ".go") = false := by
    rw [Path.isNoise, Bool.or_eq_false_iff, beq_eq_false_iff_ne, beq_eq_false_iff_ne]
    exact ⟨hne "" (by decide), hne "." (by decide)⟩
  have hparent : stem ++ ".go" ≠ ".." := hne ".." (by decide)
  rw [Path.components_join (Path.isAbsolute_of_notMem hslash)
    (mt Path.components_of_text_eq_empty hbase), Path.names_of_notMem hslash hnoise hparent]

namespace Naming

variable {group : Group} {route : Route} {cfg : Config} {naming : NamingFormat} {base : String}

/-! ### Folders -/

theorem notMem_of_mem_nonemptySegments {s part : List Char} (h : part ∈ nonemptySegments s) :
    '/' ∉ part :=
  List.notMem_of_mem_splitOn (List.mem_of_mem_filter h)

theorem notMem_of_mem_folderSegments {part : List Char}
    (h : part ∈ folderSegments group route cfg) : '/' ∉ part := by
  unfold folderSegments at h
  split at h
  · exact notMem_of_mem_nonemptySegments h
  · cases h

theorem notMem_of_mem_folderBelow (root : String) {part : List Char}
    (h : part ∈ nonemptySegments root.toList ++ folderSegments group route cfg) : '/' ∉ part := by
  rcases List.mem_append.1 h with h | h
  · exact notMem_of_mem_nonemptySegments h
  · exact notMem_of_mem_folderSegments h

theorem segments_folderBelow {root : String} {segments : List (List Char)}
    (hroot : nonemptySegments root.toList ≠ []) (hsegments : ∀ part ∈ segments, '/' ∉ part) :
    (Path.mk (folderBelow root segments)).segments =
      (nonemptySegments root.toList ++ segments).map String.ofList := by
  have hslash : ∀ part ∈ nonemptySegments root.toList ++ segments, '/' ∉ part := by
    intro part hpart
    rcases List.mem_append.1 hpart with hpart | hpart
    · exact notMem_of_mem_nonemptySegments hpart
    · exact hsegments part hpart
  unfold folderBelow Path.segments
  rw [String.toList_ofList,
    List.splitOn_intercalate '/' hslash (List.append_ne_nil_of_left_ne_nil hroot segments)]

theorem components_handlerFolder :
    (Path.mk (handlerFolder group route cfg)).components =
      [.name "internal", .name "handler"] ++
        (((folderSegments group route cfg).map String.ofList).filter (!Path.isNoise ·)).map
          Path.componentOf := by
  have hroot : nonemptySegments handlerRoot.toList = ["internal".toList, "handler".toList] := by
    decide +kernel
  have hsegments : (Path.mk (handlerFolder group route cfg)).segments =
      ["internal", "handler"] ++ (folderSegments group route cfg).map String.ofList := by
    rw [handlerFolder, segments_folderBelow (by rw [hroot]; exact List.cons_ne_nil _ _)
      fun _ => notMem_of_mem_folderSegments, hroot, List.map_append]
    rfl
  rw [Path.components_eq, Path.names, hsegments, List.filter_append, List.map_append]
  rfl

theorem parent_mem_handlerFolder_iff :
    .parent ∈ (Path.mk (handlerFolder group route cfg)).components ↔
      ['.', '.'] ∈ folderSegments group route cfg := by
  have hcomponent : ∀ segment, Path.componentOf segment = .parent ↔ segment = ".." := by
    intro segment
    unfold Path.componentOf
    split <;> simp_all
  rw [components_handlerFolder]
  simp only [List.cons_append, List.nil_append, List.mem_cons, reduceCtorEq, false_or, List.mem_map,
    List.mem_filter, hcomponent]
  constructor
  · rintro ⟨_, ⟨⟨part, hpart, hsegment⟩, -⟩, rfl⟩
    have hchars : part = "..".toList := by rw [← hsegment, String.toList_ofList]
    rwa [hchars] at hpart
  · intro hpart
    exact ⟨"..", ⟨⟨['.', '.'], hpart, rfl⟩, rfl⟩, rfl⟩

/-! ### Files -/

theorem notMem_fileName_iff :
    '/' ∉ (handlerPlan cfg naming group route base).fileName.toList ↔
      '/' ∉ naming.before ∧ '/' ∉ naming.after ∧ ('/' ∈ naming.separator →
        (wordsOf (handlerIdent base (folderSegments group route cfg)).toList).length < 2) := by
  have hstem : '/' ∈ (handlerPlan cfg naming group route base).fileName.toList ↔
      '/' ∈ naming.applyChars (handlerIdent base (folderSegments group route cfg)).toList := by
    change '/' ∈ (_ ++ ".go").toList ↔ _
    rw [String.toList_append, List.mem_append, NamingFormat.toList_apply]
    exact or_iff_left (by decide)
  rw [hstem, mem_applyChars_iff (by decide), not_or, not_or, not_and, Nat.not_le]

/-- A handler is in its place when its file name names a file. -/
theorem placed_iff :
    (handlerPlan cfg naming group route base).Placed ↔
      '/' ∉ (handlerPlan cfg naming group route base).fileName.toList := by
  constructor
  · intro h
    have hname : .name (handlerPlan cfg naming group route base).fileName ∈
        (handlerPlan cfg naming group route base).path.components := by
      rw [h.file]
      exact List.mem_append_right _ (List.mem_singleton_self _)
    exact Path.notMem_of_name_mem hname
  · intro hslash
    have hfolder : [.name "internal", .name "handler"] <+:
        (Path.mk (handlerFolder group route cfg)).components := by
      rw [components_handlerFolder]
      exact List.prefix_append _ _
    refine ⟨hfolder, components_join_goFile ?_ hslash⟩
    exact List.ne_nil_of_length_pos (Nat.lt_of_lt_of_le Nat.two_pos hfolder.length_le)

/-- What keeps the file of a route in its place, below any root. -/
structure StaysBelow (cfg : Config) (naming : NamingFormat) (group : Group) (route : Route) :
    Prop where
  folder : ['.', '.'] ∉ folderSegments group route cfg
  before : '/' ∉ naming.before
  after : '/' ∉ naming.after
  between : '/' ∈ naming.separator →
    (wordsOf (handlerIdent route.base (folderSegments group route cfg)).toList).length < 2

theorem confined_and_placed_iff :
    (handlerPlan cfg naming group route route.base).path.Confined ∧
        (handlerPlan cfg naming group route route.base).Placed ↔
      StaysBelow cfg naming group route := by
  constructor
  · rintro ⟨hconfined, hplaced⟩
    have hfolder : ['.', '.'] ∉ folderSegments group route cfg := by
      rw [← parent_mem_handlerFolder_iff]
      intro hparent
      apply hconfined.noParent
      rw [hplaced.file]
      exact List.mem_append_left _ hparent
    obtain ⟨hbefore, hafter, hbetween⟩ := notMem_fileName_iff.1 (placed_iff.1 hplaced)
    exact ⟨hfolder, hbefore, hafter, hbetween⟩
  · rintro ⟨hfolder, hbefore, hafter, hbetween⟩
    have hplaced := placed_iff.2 (notMem_fileName_iff.2 ⟨hbefore, hafter, hbetween⟩)
    have hhead : (handlerPlan cfg naming group route route.base).path.components.head? =
        some (.name "internal") := by
      rw [hplaced.file, List.head?_append]
      change ((Path.mk (handlerFolder group route cfg)).components.head?).or _ = _
      rw [components_handlerFolder]
      rfl
    have hparent : .parent ∉ (handlerPlan cfg naming group route route.base).path.components := by
      rw [hplaced.file, List.mem_append, List.mem_singleton, not_or]
      exact ⟨mt parent_mem_handlerFolder_iff.1 hfolder, by simp⟩
    exact ⟨Path.confined_of_head hhead hparent, hplaced⟩

end Naming

/-! ### Plans -/

/-- All artifacts stay below the root, handlers in their folders and interfaces in theirs. -/
structure Confined (plans : List HandlerPlan) (artifacts : List Artifact) : Prop where
  paths : ∀ artifact ∈ artifacts, artifact.path.Confined
  handlers : ∀ plan ∈ plans, plan.Placed
  interfaces : ∀ artifact ∈ artifacts, artifact.kind = .auth →
    ∃ file, artifact.path.components = [.name "internal", .name "auth", .name file]

theorem Subject.Spelled.notMem_authFile {subject : Subject} (h : subject.Spelled) :
    '/' ∉ (subject.snake ++ ".go").toList := by
  rw [h.snake_eq, String.toList_append, List.mem_append, not_or, Naming.toList_snakeCase]
  refine ⟨fun hsnake => ?_, by decide⟩
  have hunderscore := Naming.eq_underscore_of_mem_snakeChars (by decide) hsnake
  exact absurd hunderscore (by decide)

theorem Subject.Spelled.components_authPath {subject : Subject} (h : subject.Spelled) :
    subject.authPath.components =
      [.name "internal", .name "auth", .name (subject.snake ++ ".go")] := by
  have hroot : (Path.mk Naming.authRoot).components = [.name "internal", .name "auth"] := by
    decide +kernel
  rw [authPath, components_join_goFile (by rw [hroot]; exact List.cons_ne_nil _ _)
    h.notMem_authFile, hroot]
  rfl

theorem confined_sharedPath {cfg : Config} {path : Path} (h : path ∈ RouteGraph.sharedPaths cfg) :
    path.Confined := by
  unfold RouteGraph.sharedPaths at h
  split at h
  · rcases List.mem_pair.1 h with rfl | rfl
    · have hhead : errorCatalogPath.components.head? = some (.name "internal") := by decide +kernel
      exact Path.confined_of_head hhead (by decide +kernel)
    · have hhead : policyTablePath.components.head? = some (.name "etc") := by decide +kernel
      exact Path.confined_of_head hhead (by decide +kernel)
  · cases h

namespace RouteGraph

variable {graph : RouteGraph} {cfg : Config} {naming : Naming.NamingFormat}

theorem mem_plannedPaths_iff {path : Path} :
    path ∈ graph.plannedPaths cfg naming ↔
      path ∈ sharedPaths cfg ∨ path ∈ graph.authPaths cfg ∨
        path ∈ graph.handlerPaths cfg naming := by
  rw [← flatMap_authPaths]
  simp only [plannedPaths, handlerPaths, PlacedGroup.plannedPaths, List.mem_append,
    List.mem_flatMap, and_or_left, exists_or]

theorem components_of_mem_authPaths {path : Path} (h : path ∈ graph.authPaths cfg) :
    ∃ file, path.components = [.name "internal", .name "auth", .name file] := by
  unfold authPaths at h
  split at h
  · obtain ⟨guarded, hguarded, rfl⟩ := List.mem_map.1 h
    exact ⟨_, (spelled_of_mem_guarded hguarded).components_authPath⟩
  · cases h

theorem confined_of_mem_authPaths {path : Path} (h : path ∈ graph.authPaths cfg) :
    path.Confined := by
  obtain ⟨file, hfile⟩ := components_of_mem_authPaths h
  have hhead : path.components.head? = some (.name "internal") := by rw [hfile]; rfl
  exact Path.confined_of_head hhead (by simp [hfile])

theorem paths_of_kind {artifacts : List Artifact}
    (hslots : artifacts.map Artifact.slot = graph.slots cfg naming) (kind : ArtifactKind) :
    (artifacts.filter (·.kind == kind)).map Artifact.path =
      ((graph.slots cfg naming).filter (·.1 == kind)).map Prod.snd := by
  rw [← hslots, List.filter_map, List.map_map]
  rfl

theorem map_path_plansAt :
    (graph.plansAt cfg naming).map HandlerPlan.path = graph.handlerPaths cfg naming := by
  rw [plansAt, List.map_flatMap, handlerPaths]
  simp only [List.map_map]
  rfl

/-- Only the handlers can leave their places. -/
theorem confined_plansAt_iff {artifacts : List Artifact}
    (hslots : artifacts.map Artifact.slot = graph.slots cfg naming) :
    Confined (graph.plansAt cfg naming) artifacts ↔
      ∀ plan ∈ graph.plansAt cfg naming, plan.path.Confined ∧ plan.Placed := by
  have hpaths : artifacts.map Artifact.path = graph.plannedPaths cfg naming := by
    rw [← map_snd_slots, ← hslots, List.map_map]
    rfl
  have hinterface : ∀ artifact ∈ artifacts, artifact.kind = .auth →
      artifact.path ∈ graph.authPaths cfg := by
    intro artifact hartifact hkind
    have hmem : artifact.path ∈ (artifacts.filter (·.kind == .auth)).map Artifact.path :=
      List.mem_map_of_mem (List.mem_filter.2 ⟨hartifact, beq_iff_eq.2 hkind⟩)
    rw [paths_of_kind hslots, filter_auth_slots, List.map_map] at hmem
    simpa using hmem
  constructor
  · intro h plan hplan
    have hpath : plan.path ∈ graph.plannedPaths cfg naming := by
      rw [mem_plannedPaths_iff, ← map_path_plansAt]
      exact .inr (.inr (List.mem_map_of_mem hplan))
    rw [← hpaths] at hpath
    obtain ⟨artifact, hartifact, heq⟩ := List.mem_map.1 hpath
    exact ⟨heq ▸ h.paths artifact hartifact, h.handlers plan hplan⟩
  · intro h
    refine ⟨fun artifact hartifact => ?_, fun plan hplan => (h plan hplan).2,
      fun artifact hartifact hkind => components_of_mem_authPaths (hinterface artifact hartifact hkind)⟩
    have hpath : artifact.path ∈ graph.plannedPaths cfg naming := by
      rw [← hpaths]
      exact List.mem_map_of_mem hartifact
    rw [mem_plannedPaths_iff, ← map_path_plansAt] at hpath
    rcases hpath with hshared | hauth | hhandler
    · exact confined_sharedPath hshared
    · exact confined_of_mem_authPaths hauth
    · obtain ⟨plan, hplan, heq⟩ := List.mem_map.1 hhandler
      exact heq ▸ (h plan hplan).1

/-- A plan stays below the root exactly when no route leaves its folder: its annotation has no `..`
segment, and the naming format puts no slash into its file name. -/
theorem confined_iff {registry : TemplateRegistry} {engine : Template.Engine}
    {artifacts : List Artifact} (hplan : graph.plan cfg registry engine = .ok artifacts) :
    ∃ naming plans, cfg.naming = .ok naming ∧ graph.handlerPlans cfg naming = .ok plans ∧
      (artifacts.filter (·.kind == .handler)).map Artifact.path = plans.map HandlerPlan.path ∧
        (Confined plans artifacts ↔ ∀ group ∈ graph.groups, ∀ route ∈ group.routes,
          Naming.StaysBelow cfg naming group route) := by
  obtain ⟨naming, hnaming, hslots⟩ := slots_of_plan hplan
  have hbases := forall_mem_placed.2 (plannable_of_plan hplan).bases
  refine ⟨naming, _, hnaming, handlerPlans_eq_ok_iff.2 ⟨hbases, rfl⟩, ?_, ?_⟩
  · rw [paths_of_kind hslots, filter_handler_slots, List.map_map, map_path_plansAt]
    exact List.map_id _
  · rw [confined_plansAt_iff hslots, forall_mem_plansAt]
    simp only [Naming.confined_and_placed_iff]

end RouteGraph

theorem usersGraph_confined_iff :
    ∃ artifacts naming plans, usersGraph.plan {} plainTemplates = .ok artifacts ∧
      Config.naming {} = .ok naming ∧ usersGraph.handlerPlans {} naming = .ok plans ∧
        (artifacts.filter (·.kind == .handler)).map Artifact.path = plans.map HandlerPlan.path ∧
          (Confined plans artifacts ↔ ∀ group ∈ usersGraph.groups, ∀ route ∈ group.routes,
            Naming.StaysBelow {} naming group route) := by
  obtain ⟨artifacts, hplan⟩ := exists_plan_usersGraph
  obtain ⟨naming, plans, hconfined⟩ := RouteGraph.confined_iff hplan
  exact ⟨artifacts, naming, plans, hplan, hconfined⟩

/-- A graph with one route, in a group with the given annotations. -/
def pingGraph (annotations : List (String × String)) : RouteGraph where
  groups := [{ annotations := .ofList annotations, routes := [{ handler := "pingHandler" }] }]

/-- A slash in front of the format makes the handler's path absolute, and `..` segments of an annotation
lead out of the root. -/
theorem pingGraph_not_confined :
    (∃ artifacts, (pingGraph []).plan { namingFormat := "/gozero" } plainTemplates = .ok artifacts ∧
      ¬ ∀ artifact ∈ artifacts, artifact.path.Confined) ∧
    ∃ artifacts, (pingGraph [("group", "../../..")]).plan {} plainTemplates = .ok artifacts ∧
      ¬ ∀ artifact ∈ artifacts, artifact.path.Confined := by
  constructor
  · obtain ⟨artifacts, hplan, hany⟩ : ∃ artifacts,
        (pingGraph []).plan { namingFormat := "/gozero" } plainTemplates = .ok artifacts ∧
          artifacts.any (·.path.isAbsolute) = true :=
      Except.any_toOption_iff.1 (by decide +kernel)
    obtain ⟨artifact, hartifact, habsolute⟩ := List.any_eq_true.1 hany
    refine ⟨artifacts, hplan, fun h => ?_⟩
    rw [(h artifact hartifact).relative] at habsolute
    cases habsolute
  · obtain ⟨artifacts, hplan, hany⟩ : ∃ artifacts,
        (pingGraph [("group", "../../..")]).plan {} plainTemplates = .ok artifacts ∧
          artifacts.any (·.path.components.contains .parent) = true :=
      Except.any_toOption_iff.1 (by decide +kernel)
    obtain ⟨artifact, hartifact, hparent⟩ := List.any_eq_true.1 hany
    refine ⟨artifacts, hplan, fun h => ?_⟩
    exact (h artifact hartifact).noParent (List.contains_iff_mem.1 hparent)

end RouteScaffold
