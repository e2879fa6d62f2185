import RouteScaffold.Proofs.Plan.Inspection
import RouteScaffold.Proofs.Reading.Plan

/-!
# The blueprint of a plan

Where a group stands and what it is called show in failures only. In a plan a group counts by its
annotations and its routes: the handler of a route is made from the route and the annotations around it,
the interface from the annotations and all routes, and the rows of the policy table one for each route.

The blueprint of a run collects these functions. Every plan of the run is laid out by it, whatever the
graph is, so what two graphs have in common comes out alike.
-/

namespace RouteScaffold

/-- How a group is turned into files and policy rows. -/
structure Blueprint where
  handler : Annotations → Route → Artifact
  face? : Annotations → List Route → Option Artifact
  /-- The management row and the row of each route, for annotations that name a subject. -/
  rows? : Annotations → Option (PolicyRow × (Route → PolicyRow))

namespace Blueprint

def artifacts (blueprint : Blueprint) (group : Group) : List Artifact :=
  (blueprint.face? group.annotations group.routes).toList ++
    group.routes.map (blueprint.handler group.annotations)

def rows (blueprint : Blueprint) (group : Group) : List PolicyRow :=
  match blueprint.rows? group.annotations with
  | none => []
  | some (management, row) => management :: group.routes.map row

/-- The lines that a group has in the policy table. -/
def lines (blueprint : Blueprint) (group : Group) : List String :=
  (blueprint.rows group).map fun row => "p, " ++ row.name ++ ", " ++ row.scope ++ ", true"

/-- The emitters make of a placed group what the blueprint says. -/
structure Fits (blueprint : Blueprint) (cfg : Config) (naming : Naming.NamingFormat)
    (renderer : Renderer) (placed : PlacedGroup) : Prop where
  handlers : placed.emitHandlers cfg naming renderer =
    .ok (placed.group.routes.map (blueprint.handler placed.group.annotations))
  face : cfg.auth = true → placed.emitAuth? cfg renderer =
    .ok (blueprint.face? placed.group.annotations placed.group.routes)
  faceless : cfg.auth = false → blueprint.face? placed.group.annotations placed.group.routes = none
  rows : ∀ guarded, placed.guarded? cfg = some guarded →
    guarded.policyRows cfg = .ok (blueprint.rows placed.group)
  spelled : ∀ subject, placed.group.subject? cfg = some subject → blueprint.rows placed.group =
    ⟨subject.policyKey ++ "_management", subject.policyKey ++ "::*"⟩ ::
      placed.group.routes.map fun route =>
        ⟨subject.policyKey ++ "_" ++ Naming.snakeCase route.base,
          subject.policyKey ++ "::" ++ Naming.snakeCase route.base⟩
  rowless : placed.guarded? cfg = none → blueprint.rows placed.group = []

/-- The artifacts of a graph are those of its groups, after what belongs to the graph as a whole; its one
policy table has the lines of the groups, in their order. -/
structure LaysOut (blueprint : Blueprint) (cfg : Config) (naming : Naming.NamingFormat)
    (renderer : Renderer) (graph : RouteGraph) (artifacts : List Artifact) : Prop where
  group : ∀ placed ∈ graph.placed, blueprint.Fits cfg naming renderer placed
  parts : ∃ shared, SharedEmits graph cfg renderer shared ∧
    artifacts = shared ++ graph.groups.flatMap blueprint.artifacts
  policy : cfg.auth = true → artifacts.filter (·.kind == .policy) =
    [⟨.policy, ⟨"etc/auth_policy.csv"⟩, "\n".intercalate (graph.groups.flatMap blueprint.lines)⟩]

end Blueprint

/-- The blueprint of a run: what the emitters make of a group that stands alone. -/
def Config.blueprint (cfg : Config) (naming : Naming.NamingFormat) (renderer : Renderer) : Blueprint where
  handler annotations route :=
    ((PlacedGroup.mk 0 { annotations }).emitHandler cfg naming renderer 0 route).toOption.getD
      { kind := .handler, path := ⟨""⟩, contents := "" }
  face? annotations routes :=
    if cfg.auth then
      ((PlacedGroup.mk 0 { annotations, routes }).emitAuth? cfg renderer).toOption.join
    else none
  rows? annotations :=
    (Group.subject? { annotations } cfg).map fun subject =>
      (.management subject.policyKey,
        fun route => .action subject.policyKey (Naming.snakeCase route.base))

section Groups

variable {cfg : Config} {naming : Naming.NamingFormat} {renderer : Renderer}

namespace PlacedGroup

variable {placed : PlacedGroup}

theorem emitHandler_eq_blueprint {routeIndex : Nat} {route : Route} {artifact : Artifact}
    (h : placed.emitHandler cfg naming renderer routeIndex route = .ok artifact) :
    artifact = (cfg.blueprint naming renderer).handler placed.group.annotations route := by
  have hfolder : placed.group.annotation? cfg.annotations.folder =
      (PlacedGroup.mk 0 { annotations := placed.group.annotations }).group.annotation?
        cfg.annotations.folder := rfl
  have halone : (PlacedGroup.mk 0 { annotations := placed.group.annotations }).emitHandler cfg naming
      renderer 0 route = .ok artifact := emitHandler_congr hfolder h
  simp only [Config.blueprint, halone]
  rfl

theorem emitAuth?_eq_blueprint (hauth : cfg.auth = true) {face? : Option Artifact}
    (h : placed.emitAuth? cfg renderer = .ok face?) :
    face? = (cfg.blueprint naming renderer).face? placed.group.annotations placed.group.routes := by
  have hgroup : placed.group.ReadsLike cfg (PlacedGroup.mk 0
      { annotations := placed.group.annotations, routes := placed.group.routes }).group :=
    ⟨rfl, fun _ => rfl, List.forall₂_same.2 fun _ _ => ⟨rfl, rfl, Iff.rfl, rfl, rfl⟩⟩
  have halone : (PlacedGroup.mk 0
      { annotations := placed.group.annotations, routes := placed.group.routes }).emitAuth? cfg
        renderer = .ok face? := (emitAuth?_endAlike hauth hgroup.guardsAlike).eq_ok h
  simp only [Config.blueprint, hauth, if_true, halone]
  rfl

end PlacedGroup

theorem rows_blueprint_of_subject? {group : Group} {subject : Subject}
    (h : group.subject? cfg = some subject) :
    (cfg.blueprint naming renderer).rows group =
      ⟨subject.policyKey ++ "_management", subject.policyKey ++ "::*"⟩ ::
        group.routes.map fun route =>
          ⟨subject.policyKey ++ "_" ++ Naming.snakeCase route.base,
            subject.policyKey ++ "::" ++ Naming.snakeCase route.base⟩ := by
  have halone : Group.subject? { annotations := group.annotations } cfg = some subject := h
  simp only [Blueprint.rows, Config.blueprint, halone]
  rfl

theorem GuardedGroup.rowsAt_eq_blueprint {placed : PlacedGroup} {guarded : GuardedGroup}
    (h : placed.guarded? cfg = some guarded) :
    guarded.rowsAt = (cfg.blueprint naming renderer).rows placed.group := by
  obtain ⟨subject, hsubject, rfl⟩ := Option.map_eq_some_iff.1 h
  rw [rows_blueprint_of_subject? hsubject]
  rfl

theorem PlacedGroup.rows_blueprint_of_unguarded {placed : PlacedGroup}
    (h : placed.guarded? cfg = none) :
    (cfg.blueprint naming renderer).rows placed.group = [] := by
  have halone : Group.subject? { annotations := placed.group.annotations } cfg = none :=
    Option.map_eq_none_iff.1 h
  simp only [Blueprint.rows, Config.blueprint, halone]
  rfl

theorem face?_blueprint_of_disabled (hauth : cfg.auth = false) (annotations : Annotations)
    (routes : List Route) : (cfg.blueprint naming renderer).face? annotations routes = none := by
  simp [Config.blueprint, hauth]

namespace PlacedGroup

variable {placed : PlacedGroup} {owned : List OwnedArtifact}

theorem map_artifact_planHandlers (h : placed.planHandlers cfg naming renderer = .ok owned) :
    owned.map (·.artifact) =
      placed.group.routes.map ((cfg.blueprint naming renderer).handler placed.group.annotations) := by
  have hroute : ∀ (p : Nat × Route) (entry : OwnedArtifact),
      (do let artifact ← placed.emitHandler cfg naming renderer p.1 p.2
          .ok ⟨artifact, .route (placed.routeRef cfg p.1 p.2)⟩) = Except.ok entry →
        entry.artifact =
          (cfg.blueprint naming renderer).handler placed.group.annotations p.2 := by
    intro p entry hentry
    obtain ⟨artifact, hartifact, hentry⟩ := Except.bind_eq_ok_iff.1 hentry
    cases hentry
    exact emitHandler_eq_blueprint hartifact
  rw [Except.map_eq_map_of_mapM_eq_ok hroute h, ← map_snd_numbered 0 placed.group.routes, List.map_map]
  rfl

theorem emitHandlers_of_planHandlers (h : placed.planHandlers cfg naming renderer = .ok owned) :
    placed.emitHandlers cfg naming renderer = .ok
      (placed.group.routes.map ((cfg.blueprint naming renderer).handler placed.group.annotations)) := by
  rw [emitHandlers_eq, h, ← map_artifact_planHandlers h]
  rfl

theorem map_artifact_planAuth (h : placed.planAuth cfg renderer = .ok owned) :
    owned.map (·.artifact) = ((cfg.blueprint naming renderer).face? placed.group.annotations
      placed.group.routes).toList := by
  unfold planAuth at h
  by_cases hauth : cfg.auth = true
  · rw [if_pos hauth] at h
    obtain ⟨face?, hface, h⟩ := Except.bind_eq_ok_iff.1 h
    cases h
    rw [List.map_map, ← emitAuth?_eq_blueprint hauth hface]
    exact List.map_id _
  · rw [if_neg hauth] at h
    cases h
    rw [face?_blueprint_of_disabled (by simpa using hauth)]
    rfl

theorem map_artifact_plan (h : placed.plan cfg naming renderer = .ok owned) :
    owned.map (·.artifact) = (cfg.blueprint naming renderer).artifacts placed.group := by
  obtain ⟨auth, hauth, handlers, hhandlers, rfl⟩ := plan_eq_ok_iff.1 h
  rw [List.map_append, map_artifact_planAuth hauth, map_artifact_planHandlers hhandlers]
  rfl

theorem fits_of_plan (h : placed.plan cfg naming renderer = .ok owned) :
    (cfg.blueprint naming renderer).Fits cfg naming renderer placed := by
  obtain ⟨auth, hauth, handlers, hhandlers, rfl⟩ := plan_eq_ok_iff.1 h
  refine ⟨emitHandlers_of_planHandlers hhandlers, fun henabled => ?_,
    fun hdisabled => face?_blueprint_of_disabled hdisabled _ _, fun guarded hguarded => ?_,
    fun _ => rows_blueprint_of_subject?, rows_blueprint_of_unguarded⟩
  · unfold planAuth at hauth
    rw [if_pos henabled] at hauth
    obtain ⟨face?, hface, -⟩ := Except.bind_eq_ok_iff.1 hauth
    rw [hface, emitAuth?_eq_blueprint henabled hface]
  · obtain rfl := toPlacedGroup_of_guarded? hguarded
    exact GuardedGroup.policyRows_eq_ok_iff.2
      ⟨hasBase_of_plan h, (GuardedGroup.rowsAt_eq_blueprint hguarded).symm⟩

end PlacedGroup

end Groups

namespace RouteGraph

variable {graph : RouteGraph} {cfg : Config} {naming : Naming.NamingFormat} {renderer : Renderer}

theorem flatMap_rowsAt_guarded (naming : Naming.NamingFormat) (renderer : Renderer) :
    (graph.guarded cfg).flatMap GuardedGroup.rowsAt =
      graph.groups.flatMap (cfg.blueprint naming renderer).rows := by
  rw [guarded, List.filterMap_eq_flatMap_toList, List.flatMap_assoc, ← map_group_placed,
    List.flatMap_map]
  apply List.flatMap_congr
  intro placed _
  cases hguarded : placed.guarded? cfg with
  | none => exact (PlacedGroup.rows_blueprint_of_unguarded hguarded).symm
  | some guarded =>
    rw [← GuardedGroup.rowsAt_eq_blueprint hguarded]
    exact List.append_nil _

/-- A plan is laid out by the blueprint of its run. -/
theorem laysOut_of_plan {registry : TemplateRegistry} {engine : Template.Engine}
    {artifacts : List Artifact}
    (hnaming : cfg.naming = .ok naming) (hcompile : registry.compile engine = .ok renderer)
    (h : graph.plan cfg registry engine = .ok artifacts) :
    (cfg.blueprint naming renderer).LaysOut cfg naming renderer graph artifacts := by
  obtain ⟨naming', renderer', owned, hnaming', hcompile', howned, -, rfl⟩ := plan_eq_ok_iff.1 h
  rw [hnaming] at hnaming'
  rw [hcompile] at hcompile'
  cases hnaming'
  cases hcompile'
  obtain ⟨shared, hshared, parts, hparts, rfl⟩ := planOwned_eq_ok_iff.1 howned
  have hartifacts : parts.map (List.map (·.artifact)) =
      graph.placed.map fun placed => (cfg.blueprint naming renderer).artifacts placed.group :=
    Except.map_eq_map_of_mapM_eq_ok (fun _ _ => PlacedGroup.map_artifact_plan) hparts
  refine ⟨fun placed hplaced => ?_,
    ⟨shared.map (·.artifact), sharedEmits_of_planShared hshared, ?_⟩, fun hauth => ?_⟩
  · obtain ⟨part, hpart⟩ := Except.exists_ok_of_mapM_eq_ok hparts hplaced
    exact PlacedGroup.fits_of_plan hpart
  · rw [List.map_append, List.map_flatten, hartifacts, ← map_group_placed, List.flatMap_map,
      List.flatMap_def]
  · obtain ⟨_, _, policy, -, -, hpolicy, -, hpolicies⟩ := shared_of_plan hauth h
    obtain ⟨rows, hrows, hpolicy⟩ := Except.bind_eq_ok_iff.1 hpolicy
    cases hpolicy
    have hlines : graph.groups.flatMap (cfg.blueprint naming renderer).lines =
        rows.map PolicyRow.text := by
      rw [(policyRows_eq_ok_iff.1 hrows).2, flatMap_rowsAt_guarded naming renderer, List.map_flatMap]
      rfl
    rw [hpolicies, hlines, policyTablePath_eq]
    rfl

end RouteGraph

end RouteScaffold
