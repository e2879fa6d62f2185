import RouteScaffold.Proofs.Authorization.Agreement
import RouteScaffold.Proofs.Naming.Subject
import RouteScaffold.Proofs.Plan.Acceptance

/-!
# Identifiers of the authorization package

Every interface declares three names, all made from the identifier of its subject, and the catalog
declares its entries. Subjects of one identifier would share a file, so they are told apart by the paths
of a plan. The leads are told apart by their first letter, with one exception: `New` and a subject
make a subject again.

The main statement is `nodup_declaredNames_iff`.
-/

namespace RouteScaffold

/-- What stands before a subject in the names of its interface, the implementation and the constructor. -/
def typeLeads : List String := ["", "default", "New"]

/-- What the file of an interface declares at its top level. -/
def typeNames (ident : String) : List String :=
  typeLeads.map fun lead => lead ++ ident ++ "Auth"

/-- The identifiers at the top level of the authorization package. -/
def declaredNames (faces : List AuthInterface) (groups : List DenialGroup) : List String :=
  faces.flatMap (fun face => typeNames face.authName) ++
    groups.flatMap fun group => group.entries.map DenialEntry.name

section TypeNames

variable {ident other : String}

theorem nodup_typeNames (ident : String) : (typeNames ident).Nodup := by
  refine List.Nodup.map (fun lead lead' h => ?_) (by decide)
  exact (String.append_left_inj ident).1 ((String.append_left_inj "Auth").1 h)

theorem getLast?_of_mem_typeNames {name : String} (h : name ∈ typeNames ident) :
    name.toList.getLast? = some 'h' := by
  obtain ⟨lead, -, rfl⟩ := List.mem_map.1 h
  rw [String.toList_append, List.getLast?_append]
  rfl

/-- Two subjects share a name only where one of them is `New` and the other. -/
theorem disjoint_typeNames_iff (hne : ident ≠ other) (hident : ∀ tail, ident ≠ "default" ++ tail)
    (hother : ∀ tail, other ≠ "default" ++ tail) :
    (typeNames ident).Disjoint (typeNames other) ↔
      ident ≠ "New" ++ other ∧ other ≠ "New" ++ ident := by
  have hmem : ∀ lead ∈ typeLeads, ∀ subject, lead ++ subject ++ "Auth" ∈ typeNames subject :=
    fun lead hlead subject => List.mem_map.2 ⟨lead, hlead, rfl⟩
  have hface : ∀ subject, subject ++ "Auth" ∈ typeNames subject := by
    intro subject
    have h := hmem "" (by decide) subject
    rwa [String.empty_append] at h
  constructor
  · intro h
    refine ⟨fun heq => h (hface ident) ?_, fun heq => h ?_ (hface other)⟩
    · rw [heq]
      exact hmem "New" (by decide) other
    · rw [heq]
      exact hmem "New" (by decide) ident
  · rintro ⟨hnew, hnew'⟩ name hname hname'
    -- Two leads that both say something differ in their first letter.
    have hheads : ∀ s t : String, "New" ++ s ≠ "default" ++ t := by
      intro s t h
      have hhead : some 'N' = some 'd' := by simpa using congrArg (·.toList.head?) h
      exact absurd hhead (by decide)
    obtain ⟨lead, hlead, rfl⟩ := List.mem_map.1 hname
    obtain ⟨lead', hlead', heq⟩ := List.mem_map.1 hname'
    have heq : lead' ++ other = lead ++ ident := (String.append_left_inj "Auth").1 heq
    simp only [typeLeads, List.mem_cons, List.not_mem_nil, or_false] at hlead hlead'
    have hsame : lead' = lead → False := by
      rintro rfl
      exact hne ((String.append_right_inj lead').1 heq).symm
    rcases hlead with rfl | rfl | rfl <;> rcases hlead' with rfl | rfl | rfl
    · exact hsame rfl
    · rw [String.empty_append] at heq
      exact hident other heq.symm
    · rw [String.empty_append] at heq
      exact hnew heq.symm
    · rw [String.empty_append] at heq
      exact hother ident heq
    · exact hsame rfl
    · exact hheads other ident heq
    · rw [String.empty_append] at heq
      exact hnew' heq
    · exact hheads ident other heq.symm
    · exact hsame rfl

theorem nodup_flatMap_typeNames_iff {idents : List String} (hidents : idents.Nodup)
    (hleads : ∀ ident ∈ idents, ∀ tail, ident ≠ "default" ++ tail) :
    (idents.flatMap typeNames).Nodup ↔
      ∀ ident ∈ idents, ∀ other ∈ idents, other ≠ "New" ++ ident := by
  have hnames : ∀ ident ∈ idents, typeNames ident ≠ [] := fun _ _ => List.cons_ne_nil _ _
  rw [List.nodup_flatMap_iff_disjoint hnames]
  constructor
  · rintro ⟨-, -, hdisjoint⟩ ident hident other hother heq
    have hne : ident ≠ other := by
      rintro rfl
      have hlength := congrArg String.length heq
      rw [String.length_append] at hlength
      change _ = 3 + _ at hlength
      omega
    exact ((disjoint_typeNames_iff hne (hleads ident hident) (hleads other hother)).1
      (hdisjoint ident hident other hother hne)).2 heq
  · intro h
    refine ⟨hidents, fun ident _ => nodup_typeNames ident, fun ident hident other hother hne => ?_⟩
    exact (disjoint_typeNames_iff hne (hleads ident hident) (hleads other hother)).2
      ⟨h other hother ident hident, h ident hident other hother⟩

end TypeNames

theorem getLast?_of_mem_entryNames {graph : RouteGraph} {cfg : Config} {name : String}
    (h : name ∈ graph.entryNames cfg) : name.toList.getLast? = some 'd' := by
  obtain ⟨guarded, -, hroutes⟩ := List.mem_flatMap.1 h
  obtain ⟨route, -, rfl⟩ := List.mem_map.1 hroutes
  rw [GuardedGroup.entryName, denialName, String.toList_append, List.getLast?_append]
  rfl

namespace RouteGraph

variable {graph : RouteGraph} {cfg : Config}

/-- Subjects with one identifier would share the file of their interface. -/
theorem nodup_idents (h : graph.Plannable cfg) (hauth : cfg.auth = true) :
    ((graph.guarded cfg).map fun guarded => guarded.subject.ident).Nodup := by
  obtain ⟨naming, hnaming⟩ := Config.exists_naming_iff.2 h.naming
  have hpaths : ((graph.authPaths cfg).map Path.components).Nodup :=
    (h.paths naming hnaming).sublist ((authPaths_sublist graph cfg naming).map Path.components)
  have hidents : (graph.authPaths cfg).map Path.components =
      ((graph.guarded cfg).map fun guarded => guarded.subject.ident).map fun ident =>
        ((Path.mk Naming.authRoot).join ⟨Naming.snakeCase ident ++ ".go"⟩).components := by
    rw [authPaths, if_pos hauth, List.map_map, List.map_map]
    refine List.map_congr_left fun guarded hguarded => ?_
    simp only [Function.comp_def, Subject.authPath, (spelled_of_mem_guarded hguarded).snake_eq]
  rw [hidents] at hpaths
  exact hpaths.of_map

theorem exists_faces (h : graph.Plannable cfg) (hauth : cfg.auth = true) :
    ∃ faces, (graph.guarded cfg).mapM (·.authInterface cfg) = .ok faces ∧
      faces.map AuthInterface.authName =
        (graph.guarded cfg).map fun guarded => guarded.subject.ident := by
  have hface : ∀ guarded ∈ graph.guarded cfg, ∃ face, guarded.authInterface cfg = .ok face := by
    intro guarded hguarded
    exact ⟨_, Except.bind_eq_ok_iff.2 ⟨_, h.authMethods_eq hauth hguarded, rfl⟩⟩
  have hname : ∀ (guarded : GuardedGroup) face, guarded.authInterface cfg = .ok face →
      face.authName = guarded.subject.ident := by
    intro guarded face hface
    obtain ⟨methods, -, hface⟩ := Except.bind_eq_ok_iff.1 hface
    cases hface
    rfl
  obtain ⟨faces, hfaces⟩ := Except.exists_mapM_eq_ok hface
  exact ⟨faces, hfaces, Except.map_eq_map_of_mapM_eq_ok hname hfaces⟩

/-- The identifiers of a planned authorization package are distinct exactly when no subject is `New` and
another subject. -/
theorem nodup_declaredNames_iff {registry : TemplateRegistry} {engine : Template.Engine}
    {artifacts : List Artifact}
    (hplan : graph.plan cfg registry engine = .ok artifacts) (hauth : cfg.auth = true) :
    ∃ faces groups, (graph.guarded cfg).mapM (·.authInterface cfg) = .ok faces ∧
      graph.denialGroups cfg = .ok groups ∧
        ((declaredNames faces groups).Nodup ↔ ∀ guarded ∈ graph.guarded cfg,
          ∀ other ∈ graph.guarded cfg, other.subject.ident ≠ "New" ++ guarded.subject.ident) := by
  have h : graph.Plannable cfg := plannable_of_plan hplan
  obtain ⟨faces, hfaces, hidents⟩ := exists_faces h hauth
  refine ⟨faces, _, hfaces, denialGroups_eq_ok_iff.2 ⟨h.allowsCatalog hauth, rfl⟩, ?_⟩
  have hleads : ∀ ident ∈ (graph.guarded cfg).map fun guarded => guarded.subject.ident,
      ∀ tail, ident ≠ "default" ++ tail := by
    rw [List.forall_mem_map]
    intro guarded hguarded
    exact (spelled_of_mem_guarded hguarded).ident_ne_append (by decide)
  have hnames : faces.flatMap (fun face => typeNames face.authName) =
      ((graph.guarded cfg).map fun guarded => guarded.subject.ident).flatMap typeNames := by
    rw [← hidents, List.flatMap_map]
  rw [declaredNames, hnames, flatMap_names_catalogAt, List.nodup_append,
    nodup_flatMap_typeNames_iff (nodup_idents h hauth) hleads, List.forall_mem_map]
  simp only [List.forall_mem_map]
  refine ⟨fun hparts => hparts.1, fun hsubjects => ⟨hsubjects, h.names hauth, ?_⟩⟩
  -- the last letters tell the entries from the rest
  intro name hname entry hentry heq
  obtain ⟨ident, -, hname⟩ := List.mem_flatMap.1 hname
  have hlast := getLast?_of_mem_typeNames hname
  rw [heq, getLast?_of_mem_entryNames hentry] at hlast
  exact absurd hlast (by decide)

end RouteGraph

theorem usersGraph_nodup_declaredNames_iff :
    ∃ artifacts faces groups, usersGraph.plan {} plainTemplates = .ok artifacts ∧
      (usersGraph.guarded {}).mapM (·.authInterface {}) = .ok faces ∧
        usersGraph.denialGroups {} = .ok groups ∧
          ((declaredNames faces groups).Nodup ↔ ∀ guarded ∈ usersGraph.guarded {},
            ∀ other ∈ usersGraph.guarded {},
              other.subject.ident ≠ "New" ++ guarded.subject.ident) := by
  obtain ⟨artifacts, hplan⟩ := exists_plan_usersGraph
  obtain ⟨faces, groups, hnames⟩ := RouteGraph.nodup_declaredNames_iff hplan rfl
  exact ⟨artifacts, faces, groups, hplan, hnames⟩

/-- Users, and new users beside them. -/
def newUsersGraph : RouteGraph where
  groups :=
    [{ annotations := .ofList [("group", "users")], routes := [{ handler := "list" }] },
     { annotations := .ofList [("group", "new_users")], routes := [{ handler := "list" }] }]

/-- The constructor for users has the name of the interface for new users. -/
theorem newUsersGraph_names_collide :
    ∃ artifacts faces groups, newUsersGraph.plan {} plainTemplates = .ok artifacts ∧
      (newUsersGraph.guarded {}).mapM (·.authInterface {}) = .ok faces ∧
        newUsersGraph.denialGroups {} = .ok groups ∧ ¬ (declaredNames faces groups).Nodup := by
  obtain ⟨artifacts, hplan⟩ : ∃ artifacts, newUsersGraph.plan {} plainTemplates = .ok artifacts :=
    Except.isOk_eq_true_iff.1 (by decide +kernel)
  obtain ⟨faces, hfaces, hidents⟩ :
      ∃ faces, (newUsersGraph.guarded {}).mapM (·.authInterface {}) = .ok faces ∧
        (faces.map AuthInterface.authName == ["User", "NewUser"]) = true :=
    Except.any_toOption_iff.1 (by decide +kernel)
  obtain ⟨groups, hgroups⟩ : ∃ groups, newUsersGraph.denialGroups {} = .ok groups :=
    Except.isOk_eq_true_iff.1 (by decide +kernel)
  refine ⟨artifacts, faces, groups, hplan, hfaces, hgroups, fun h => ?_⟩
  have hnames : (["User", "NewUser"].flatMap typeNames).Nodup := by
    rw [← beq_iff_eq.1 hidents, List.flatMap_map]
    exact (List.nodup_append.1 h).1
  exact absurd hnames (by decide)

end RouteScaffold
