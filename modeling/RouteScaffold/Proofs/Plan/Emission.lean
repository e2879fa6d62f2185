import Mathlib.Algebra.BigOperators.Group.List.Basic
import RouteScaffold.Proofs.Generation.Report
import RouteScaffold.Proofs.Plan.Identifiers

/-!
# What a plan emits, and in which order

A plan is the catalog and the policy table, then group by group the interface and the handlers. Each
part is the work of one emitter. A handler comes out as it would on its own: of its group only the folder
annotation shows in it.

The main statement is `plan_emits`.
-/

namespace RouteScaffold

theorem SortedMap.get?_ofList_singleton {κ ν : Type} [Ord κ] [Std.TransOrd κ] (key : κ) (value : ν) :
    (SortedMap.ofList [(key, value)]).get? key = some value := by
  change (SortedMap.empty.insert key value).get? key = some value
  rw [get?_insert, if_pos Std.ReflCmp.compare_self]

namespace Group

/-- A group without routes and with no annotation but the one for the folder. -/
def inFolder (cfg : Config) (folder? : Option String) : Group where
  annotations := .ofList (folder?.toList.map fun folder => (cfg.annotations.folder, folder))

theorem annotation?_inFolder (cfg : Config) (group : Group) :
    (inFolder cfg (group.annotation? cfg.annotations.folder)).annotation? cfg.annotations.folder =
      group.annotation? cfg.annotations.folder := by
  cases hfolder : group.annotation? cfg.annotations.folder with
  | none => rfl
  | some folder =>
    have hne : folder ≠ "" := Annotations.find?_ne_empty hfolder
    have htrimmed : Text.trim folder = folder := by
      obtain ⟨written, -, rfl⟩ := Option.map_eq_some_iff.1 (Option.filter_eq_some_iff.1 hfolder).1
      exact Text.trim_trim written
    change ((SortedMap.get? (.ofList [(cfg.annotations.folder, folder)])
      cfg.annotations.folder).map Text.trim).filter (· ≠ "") = some folder
    rw [SortedMap.get?_ofList_singleton, Option.map_some, htrimmed]
    simp [hne]

end Group

/-- The handler artifact of a route that stands alone in a group with the given folder annotation. -/
def Route.artifact (route : Route) (cfg : Config) (registry : TemplateRegistry)
    (engine : Template.Engine) (folder? : Option String) : Except Failure Artifact := do
  let naming ← cfg.naming
  let renderer ← registry.compile engine
  (PlacedGroup.mk 0 (.inFolder cfg folder?)).emitHandler cfg naming renderer 0 route

/-- What a route gets: its own artifact, in its folder, under its formatted identifier. -/
structure RouteEmits (cfg : Config) (naming : Naming.NamingFormat) (registry : TemplateRegistry)
    (engine : Template.Engine) (group : Group) (route : Route) (artifact : Artifact) : Prop where
  alone : route.artifact cfg registry engine (group.annotation? cfg.annotations.folder) = .ok artifact
  kind : artifact.kind = .handler
  path : ∃ base, Naming.tokenBase route.handler = .ok base ∧
    artifact.path = (Path.mk (Naming.handlerFolder group route cfg)).join
      ⟨naming.apply (Naming.handlerIdent base (Naming.folderSegments group route cfg)) ++ ".go"⟩

/-- What a group brings to a plan: its interface, if it gets one, and a handler for each route. -/
inductive GroupEmits (cfg : Config) (naming : Naming.NamingFormat) (registry : TemplateRegistry)
    (engine : Template.Engine) (renderer : Renderer) (placed : PlacedGroup) :
    List Artifact → Prop where
  | plain {handlers : List Artifact}
      (unguarded : cfg.auth = false ∨ placed.group.subject? cfg = none)
      (routes : List.Forall₂ (RouteEmits cfg naming registry engine placed.group) placed.group.routes
        handlers) :
      GroupEmits cfg naming registry engine renderer placed handlers
  | guarded {subject : Subject} {face : Artifact} {handlers : List Artifact}
      (enabled : cfg.auth = true) (named : placed.group.subject? cfg = some subject)
      (emitted : placed.emitAuth? cfg renderer = .ok (some face))
      (slot : face.slot = (.auth, ⟨"internal/auth/" ++ subject.snake ++ ".go"⟩))
      (routes : List.Forall₂ (RouteEmits cfg naming registry engine placed.group) placed.group.routes
        handlers) :
      GroupEmits cfg naming registry engine renderer placed (face :: handlers)

/-- What the graph as a whole brings to a plan. -/
inductive SharedEmits (graph : RouteGraph) (cfg : Config) (renderer : Renderer) :
    List Artifact → Prop where
  | disabled (disabled : cfg.auth = false) : SharedEmits graph cfg renderer []
  | enabled {catalog policy : Artifact} (enabled : cfg.auth = true)
      (catalogEmitted : graph.emitErrorCatalog cfg renderer = .ok catalog)
      (policyEmitted : graph.emitPolicyTable cfg = .ok policy)
      (catalogSlot : catalog.slot = (.authError, ⟨"internal/auth/error.go"⟩))
      (policySlot : policy.slot = (.policy, ⟨"etc/auth_policy.csv"⟩)) :
      SharedEmits graph cfg renderer [catalog, policy]

theorem errorCatalogPath_eq : errorCatalogPath = ⟨"internal/auth/error.go"⟩ := by
  decide +kernel

theorem policyTablePath_eq : policyTablePath = ⟨"etc/auth_policy.csv"⟩ := by
  decide +kernel

theorem Path.join_text_of_notMem {base : Path} {text : String} (hbase : base.text ≠ "")
    (hlast : base.text.toList.getLast? ≠ some '/') (h : '/' ∉ text.toList) :
    base.join ⟨text⟩ = ⟨base.text ++ "/" ++ text⟩ := by
  unfold join
  rw [isAbsolute_of_notMem h]
  simp [hbase, hlast]

theorem Subject.Spelled.authPath_eq {subject : Subject} (h : subject.Spelled) :
    subject.authPath = ⟨"internal/auth/" ++ subject.snake ++ ".go"⟩ := by
  rw [authPath, Path.join_text_of_notMem (by decide) (by decide) h.notMem_authFile, String.append_assoc]
  rfl

/-- Of a group, only the folder annotation shows in the plan of a handler. -/
theorem Naming.handlerPlan_congr {cfg : Config} {group other : Group}
    (h : group.annotation? cfg.annotations.folder = other.annotation? cfg.annotations.folder)
    (naming : NamingFormat) (route : Route) (base : String) :
    handlerPlan cfg naming group route base = handlerPlan cfg naming other route base := by
  have hsegments : folderSegments group route cfg = folderSegments other route cfg := by
    unfold folderSegments folderAnnotation?
    rw [h]
  unfold handlerPlan handlerFolder handlerImports logicFolder
  rw [hsegments]

section Groups

variable {cfg : Config} {naming : Naming.NamingFormat} {renderer : Renderer}
  {registry : TemplateRegistry} {engine : Template.Engine}

namespace PlacedGroup

variable {placed other : PlacedGroup} {routeIndex otherIndex : Nat} {route : Route}
  {artifact : Artifact}

theorem emitHandler_eq_ok_iff :
    placed.emitHandler cfg naming renderer routeIndex route = .ok artifact ↔
      route.HasBase ∧ renderer.render .handler Template.BuiltIn.handlerName
        (Naming.handlerPlan cfg naming placed.group route route.base).path
        (Naming.handlerPlan cfg naming placed.group route route.base).data.scope = .ok artifact := by
  unfold emitHandler
  rw [Except.bind_eq_ok_iff]
  constructor
  · rintro ⟨plan, hplan, hrender⟩
    obtain ⟨hbase, rfl⟩ := handlerPlan_eq_ok_iff.1 hplan
    exact ⟨hbase, hrender⟩
  · rintro ⟨hbase, hrender⟩
    exact ⟨_, handlerPlan_eq_ok_iff.2 ⟨hbase, rfl⟩, hrender⟩

theorem emitHandler_congr
    (h : placed.group.annotation? cfg.annotations.folder =
      other.group.annotation? cfg.annotations.folder)
    (hemit : placed.emitHandler cfg naming renderer routeIndex route = .ok artifact) :
    other.emitHandler cfg naming renderer otherIndex route = .ok artifact := by
  rw [emitHandler_eq_ok_iff] at hemit ⊢
  rwa [← Naming.handlerPlan_congr h]

theorem routeEmits_of_emitHandler (hnaming : cfg.naming = .ok naming)
    (hcompile : registry.compile engine = .ok renderer)
    (h : placed.emitHandler cfg naming renderer routeIndex route = .ok artifact) :
    RouteEmits cfg naming registry engine placed.group route artifact := by
  have hslot := slot_of_emitHandler h
  have hbase : route.HasBase := (emitHandler_eq_ok_iff.1 h).1
  refine ⟨?_, congrArg Prod.fst hslot, route.base, hbase.tokenBase_eq, congrArg Prod.snd hslot⟩
  unfold Route.artifact
  rw [hnaming, hcompile, Except.ok_bind, Except.ok_bind]
  exact emitHandler_congr (Group.annotation?_inFolder cfg placed.group).symm h

theorem forall₂_of_planHandlers (hnaming : cfg.naming = .ok naming)
    (hcompile : registry.compile engine = .ok renderer) {owned : List OwnedArtifact}
    (h : placed.planHandlers cfg naming renderer = .ok owned) :
    List.Forall₂ (RouteEmits cfg naming registry engine placed.group) placed.group.routes
      (owned.map (·.artifact)) := by
  rw [← map_snd_numbered 0 placed.group.routes, List.forall₂_map_left_iff,
    List.forall₂_map_right_iff]
  refine (Except.mapM_eq_ok_iff.1 h).imp fun p entry hentry => ?_
  obtain ⟨artifact, hartifact, hentry⟩ := Except.bind_eq_ok_iff.1 hentry
  cases hentry
  exact routeEmits_of_emitHandler hnaming hcompile hartifact

theorem emitAuth?_of_unguarded (h : placed.group.subject? cfg = none) :
    placed.emitAuth? cfg renderer = .ok none := by
  rw [emitAuth?, guarded?, h]
  rfl

theorem exists_slot_of_emitAuth? {subject : Subject} {face? : Option Artifact}
    (hsubject : placed.group.subject? cfg = some subject)
    (h : placed.emitAuth? cfg renderer = .ok face?) :
    ∃ artifact, face? = some artifact ∧ artifact.slot = (.auth, subject.authPath) := by
  have hguarded : placed.guarded? cfg = some { placed with subject } := by simp [guarded?, hsubject]
  rw [emitAuth?, hguarded] at h
  obtain ⟨artifact, hartifact, rfl⟩ := Except.map_eq_ok_iff.1 h
  obtain ⟨_, -, hrender⟩ := Except.bind_eq_ok_iff.1 hartifact
  exact ⟨artifact, rfl, Renderer.slot_of_render hrender⟩

theorem groupEmits_of_plan (hnaming : cfg.naming = .ok naming)
    (hcompile : registry.compile engine = .ok renderer) {owned : List OwnedArtifact}
    (h : placed.plan cfg naming renderer = .ok owned) :
    GroupEmits cfg naming registry engine renderer placed (owned.map (·.artifact)) := by
  obtain ⟨auth, hauth, handlers, hhandlers, rfl⟩ := plan_eq_ok_iff.1 h
  have hroutes := forall₂_of_planHandlers hnaming hcompile hhandlers
  rw [List.map_append]
  unfold planAuth at hauth
  by_cases henabled : cfg.auth = true
  · rw [if_pos henabled] at hauth
    obtain ⟨found, hfound, hauth⟩ := Except.bind_eq_ok_iff.1 hauth
    cases hauth
    cases hsubject : placed.group.subject? cfg with
    | none =>
      rw [emitAuth?_of_unguarded hsubject] at hfound
      cases hfound
      exact .plain (.inr hsubject) hroutes
    | some subject =>
      obtain ⟨face, rfl, hslot⟩ := exists_slot_of_emitAuth? hsubject hfound
      have hspelled : subject.Spelled := Group.spelled_of_subject? hsubject
      refine .guarded henabled hsubject hfound ?_ hroutes
      rw [← hspelled.authPath_eq]
      exact hslot
  · have hdisabled : cfg.auth = false := by simpa using henabled
    rw [if_neg henabled] at hauth
    cases hauth
    exact .plain (.inl hdisabled) hroutes

end PlacedGroup

end Groups

namespace RouteGraph

variable {graph : RouteGraph} {cfg : Config} {naming : Naming.NamingFormat} {renderer : Renderer}

theorem sharedEmits_of_planShared {owned : List OwnedArtifact}
    (h : graph.planShared cfg renderer = .ok owned) :
    SharedEmits graph cfg renderer (owned.map (·.artifact)) := by
  by_cases henabled : cfg.auth = true
  · have hslots := slots_of_planShared h
    obtain ⟨catalog, hcatalog, policy, hpolicy, rfl⟩ := (planShared_eq_ok_iff henabled).1 h
    rw [sharedSlots, if_pos henabled] at hslots
    obtain ⟨hcatalogSlot, hslots⟩ := List.cons_eq_cons.1 hslots
    obtain ⟨hpolicySlot, -⟩ := List.cons_eq_cons.1 hslots
    rw [errorCatalogPath_eq] at hcatalogSlot
    rw [policyTablePath_eq] at hpolicySlot
    exact .enabled henabled hcatalog hpolicy hcatalogSlot hpolicySlot
  · unfold planShared at h
    rw [if_neg henabled] at h
    cases h
    exact .disabled (by simpa using henabled)

theorem length_plannedPaths (graph : RouteGraph) (cfg : Config) (naming : Naming.NamingFormat) :
    (graph.plannedPaths cfg naming).length =
      (if cfg.auth then 2 else 0) + (if cfg.auth then (graph.guarded cfg).length else 0) +
        graph.routeCount := by
  have hshared : (sharedPaths cfg).length = if cfg.auth then 2 else 0 := by
    unfold sharedPaths
    split <;> rfl
  have hgroups : (graph.placed.flatMap (·.plannedPaths cfg naming)).length =
      (graph.authPaths cfg).length + (graph.handlerPaths cfg naming).length := by
    rw [← flatMap_authPaths, handlerPaths, List.length_flatMap, List.length_flatMap,
      List.length_flatMap, ← List.sum_map_add]
    simp only [PlacedGroup.plannedPaths, List.length_append]
  rw [plannedPaths, List.length_append, hshared, hgroups, length_authPaths, length_handlerPaths,
    Nat.add_assoc]

/-- A plan holds what belongs to the graph, then what each group brings, in graph order, and nothing
else. -/
theorem plan_emits {registry : TemplateRegistry} {engine : Template.Engine} {artifacts : List Artifact}
    (hplan : graph.plan cfg registry engine = .ok artifacts) :
    ∃ naming renderer shared parts,
      cfg.naming = .ok naming ∧ registry.compile engine = .ok renderer ∧
      artifacts = shared ++ parts.flatten ∧ SharedEmits graph cfg renderer shared ∧
        List.Forall₂ (GroupEmits cfg naming registry engine renderer) graph.placed parts ∧
          artifacts.length = (if cfg.auth then 2 else 0) +
            (if cfg.auth then (graph.guarded cfg).length else 0) + graph.routeCount := by
  obtain ⟨naming, renderer, owned, hnaming, hcompile, howned, -, rfl⟩ := plan_eq_ok_iff.1 hplan
  have hlength : (owned.map OwnedArtifact.path).length = _ :=
    (congrArg List.length (paths_of_planOwned howned)).trans (length_plannedPaths graph cfg naming)
  obtain ⟨shared, hshared, parts, hparts, rfl⟩ := planOwned_eq_ok_iff.1 howned
  refine ⟨naming, renderer, shared.map (·.artifact), parts.map (List.map (·.artifact)), hnaming,
    hcompile, ?_, sharedEmits_of_planShared hshared, ?_, ?_⟩
  · rw [List.map_append, List.map_flatten]
  · rw [List.forall₂_map_right_iff]
    exact (Except.mapM_eq_ok_iff.1 hparts).imp fun placed part hpart =>
      PlacedGroup.groupEmits_of_plan hnaming hcompile hpart
  · rwa [List.length_map] at hlength ⊢

end RouteGraph

theorem adminGraph_plan_emits :
    ∃ artifacts naming renderer shared parts,
      adminGraph.plan adminConfig plainTemplates = .ok artifacts ∧ adminConfig.naming = .ok naming ∧
        plainTemplates.compile = .ok renderer ∧ artifacts = shared ++ parts.flatten ∧
          SharedEmits adminGraph adminConfig renderer shared ∧
            List.Forall₂ (GroupEmits adminConfig naming plainTemplates .standard renderer) adminGraph.placed
              parts ∧
              artifacts.length = 8 := by
  obtain ⟨artifacts, hplan⟩ := exists_plan_adminGraph
  obtain ⟨naming, renderer, shared, parts, hnaming, hcompile, hparts, hshared, hgroups, hlength⟩ :=
    RouteGraph.plan_emits hplan
  have hcount : (adminGraph.guarded adminConfig).length = 2 := by decide +kernel
  refine ⟨artifacts, naming, renderer, shared, parts, hplan, hnaming, hcompile, hparts, hshared,
    hgroups, ?_⟩
  rw [hlength, hcount]
  rfl

end RouteScaffold
