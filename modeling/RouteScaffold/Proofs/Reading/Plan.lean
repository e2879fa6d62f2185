import RouteScaffold.Proofs.Reading.Authorization

/-!
# Graphs that read alike have one plan

Two plans are made side by side, from graphs that read alike. Every name is made from what both graphs
show, so each step of one run meets its counterpart in the other: both go on with the same names, files
and codes, or both stop at the same place for the same reason. The runs carry along who took which name
and which path; there they differ in labels only.

How far two graphs have to agree is left to the handlers: where their files correspond, in whatever way
keeps the paths, the plans do.

The main statement is `plan_respects_reading`.
-/

namespace RouteScaffold

variable {cfg : Config} {naming : Naming.NamingFormat} {renderer : Renderer}
  {R : Artifact → Artifact → Prop}

/-! ### Plans that correspond -/

/-- Two artifacts that correspond, made for what differs in labels only. -/
structure OwnedArtifact.Alike (R : Artifact → Artifact → Prop) (owned other : OwnedArtifact) : Prop where
  artifact : R owned.artifact other.artifact
  owner : owned.owner.unlabelled = other.owner.unlabelled

/-- Groups that correspond are guarded alike, and the files of their handlers correspond. -/
structure PlanCorrespondence (cfg : Config) (naming : Naming.NamingFormat) (renderer : Renderer)
    (P : Group → Group → Prop) (R : Artifact → Artifact → Prop) : Prop where
  refl : ∀ artifact, R artifact artifact
  path : ∀ artifact artifact', R artifact artifact' → artifact.path = artifact'.path
  guards : ∀ group group', P group group' → group.GuardsAlike cfg group'
  handlers : ∀ placed placed' : PlacedGroup, P placed.group placed'.group →
    EndAlike (List.Forall₂ (OwnedArtifact.Alike R)) (placed.planHandlers cfg naming renderer)
      (placed'.planHandlers cfg naming renderer)

namespace PlacedGroup

variable {placed other : PlacedGroup}

theorem planHandlers_endAlike {T : Route → Route → Prop}
    (h : List.Forall₂ T placed.group.routes other.group.routes)
    (htoken : ∀ route route', T route route' → route.SameToken route')
    (hemit : ∀ routeIndex route route', T route route' →
      EndAlike R (placed.emitHandler cfg naming renderer routeIndex route)
        (other.emitHandler cfg naming renderer routeIndex route')) :
    EndAlike (List.Forall₂ (OwnedArtifact.Alike R)) (placed.planHandlers cfg naming renderer)
      (other.planHandlers cfg naming renderer) := by
  refine .mapM (forall₂_routes h) fun p q hpq => ?_
  obtain ⟨routeIndex, route⟩ := p
  obtain ⟨_, route'⟩ := q
  obtain ⟨rfl, hroute⟩ := hpq
  refine (hemit routeIndex route route' hroute).bind fun artifact artifact' hartifact =>
    .ok ⟨hartifact, ?_⟩
  exact congrArg Owner.route (unlabelled_routeRef cfg (htoken _ _ hroute) placed other routeIndex)

theorem planAuth_endAlike (hrefl : ∀ artifact, R artifact artifact)
    (h : placed.group.GuardsAlike cfg other.group) :
    EndAlike (List.Forall₂ (OwnedArtifact.Alike R)) (placed.planAuth cfg renderer)
      (other.planAuth cfg renderer) := by
  unfold planAuth
  by_cases hauth : cfg.auth = true
  · rw [if_pos hauth, if_pos hauth]
    refine (emitAuth?_endAlike hauth h).bind_eq fun auth => .ok ?_
    rw [List.forall₂_map_left_iff, List.forall₂_map_right_iff, List.forall₂_same]
    exact fun artifact _ => ⟨hrefl artifact, rfl⟩
  · rw [if_neg hauth, if_neg hauth]
    exact .ok .nil

end PlacedGroup

namespace RouteGraph

variable {graph other : RouteGraph}

theorem planShared_endAlike (hrefl : ∀ artifact, R artifact artifact)
    (h : graph.GuardsAlike cfg other) :
    EndAlike (List.Forall₂ (OwnedArtifact.Alike R)) (graph.planShared cfg renderer)
      (other.planShared cfg renderer) := by
  unfold planShared
  by_cases hauth : cfg.auth = true
  · rw [if_pos hauth, if_pos hauth]
    refine (emitErrorCatalog_endAlike hauth h).bind_eq fun catalog => ?_
    refine (emitPolicyTable_endAlike hauth h).bind_eq fun policy => .ok ?_
    exact List.forall₂_same.2 fun owned _ => ⟨hrefl owned.artifact, rfl⟩
  · rw [if_neg hauth, if_neg hauth]
    exact .ok .nil

end RouteGraph

/-- Paths decide where a walk over the artifacts stops; the owners only appear in what it reports. -/
theorem collision?_alike (hpath : ∀ artifact artifact', R artifact artifact' → artifact.path = artifact'.path)
    {owned others : List OwnedArtifact} (h : List.Forall₂ (OwnedArtifact.Alike R) owned others)
    {seen seen' : List (List Component × Owner)} (hseen : TakenAlike Owner.unlabelled seen seen') :
    (collision? seen owned).map Failure.unlabelled =
      (collision? seen' others).map Failure.unlabelled := by
  induction h generalizing seen seen' with
  | nil => rfl
  | @cons entry entry' _ _ hentry _ ih =>
    unfold collision?
    rw [hpath _ _ hentry.artifact]
    obtain ⟨hfree, hfree'⟩ | ⟨first, first', htaken, htaken', hlabels⟩ :=
      hseen.lookup_cases entry'.artifact.path.components
    · simp only [hfree, hfree']
      exact ih (hseen.cons _ hentry.owner)
    · simp only [htaken, htaken', Option.map_some, Failure.unlabelled, hlabels, hentry.owner]

section Correspondence

variable {P : Group → Group → Prop} {graph other : RouteGraph}

theorem PlacedGroup.plan_endAlike {placed other : PlacedGroup}
    (hcorresponds : PlanCorrespondence cfg naming renderer P R) (h : P placed.group other.group) :
    EndAlike (List.Forall₂ (OwnedArtifact.Alike R)) (placed.plan cfg naming renderer)
      (other.plan cfg naming renderer) := by
  refine (planAuth_endAlike hcorresponds.refl (hcorresponds.guards _ _ h)).bind fun auth auth' hauth => ?_
  refine (hcorresponds.handlers _ _ h).bind fun handlers handlers' hhandlers => .ok ?_
  exact List.rel_append hauth hhandlers

theorem RouteGraph.planOwned_endAlike (hcorresponds : PlanCorrespondence cfg naming renderer P R)
    (h : List.Forall₂ P graph.groups other.groups) :
    EndAlike (List.Forall₂ (OwnedArtifact.Alike R)) (graph.planOwned cfg naming renderer)
      (other.planOwned cfg naming renderer) := by
  have hguards : graph.GuardsAlike cfg other := h.imp hcorresponds.guards
  refine (planShared_endAlike hcorresponds.refl hguards).bind fun shared shared' hshared => ?_
  have hgroups : EndAlike (List.Forall₂ (List.Forall₂ (OwnedArtifact.Alike R)))
      (graph.placed.mapM (·.plan cfg naming renderer))
      (other.placed.mapM (·.plan cfg naming renderer)) :=
    .mapM (forall₂_placed h) fun _ _ => PlacedGroup.plan_endAlike hcorresponds
  refine hgroups.bind fun groups groups' hgroups => .ok ?_
  exact List.rel_append hshared (List.rel_flatten hgroups)

/-- Graphs whose groups correspond have plans that correspond, or fail alike. -/
theorem RouteGraph.plan_corresponds {registry : TemplateRegistry} {engine : Template.Engine}
    (hcorresponds : ∀ naming renderer, registry.compile engine = .ok renderer →
      PlanCorrespondence cfg naming renderer P R)
    (h : List.Forall₂ P graph.groups other.groups) :
    EndAlike (List.Forall₂ R) (graph.plan cfg registry engine) (other.plan cfg registry engine) := by
  rw [plan_eq, plan_eq]
  refine (EndAlike.refl cfg.naming).bind_eq fun naming => ?_
  rcases hcompile : registry.compile engine with failure | renderer
  · exact .error rfl
  have hcorresponds := hcorresponds naming renderer hcompile
  refine (planOwned_endAlike hcorresponds h).bind fun owned others howned => ?_
  have hartifacts : List.Forall₂ R (owned.map (·.artifact)) (others.map (·.artifact)) := by
    rw [List.forall₂_map_left_iff, List.forall₂_map_right_iff]
    exact howned.imp fun _ _ hentry => hentry.artifact
  have hcollision := collision?_alike hcorresponds.path howned .nil
  cases hfound : collision? [] owned with
  | none =>
    rw [hfound, Option.map_none, eq_comm, Option.map_eq_none_iff] at hcollision
    rw [hcollision]
    exact .ok hartifacts
  | some failure =>
    rw [hfound, Option.map_some, eq_comm, Option.map_eq_some_iff] at hcollision
    obtain ⟨failure', hfound', hlabels⟩ := hcollision
    rw [hfound']
    exact .error hlabels.symm

end Correspondence

/-! ### Groups that read alike -/

theorem Group.ReadsLike.guardsAlike {group other : Group} (h : group.ReadsLike cfg other) :
    group.GuardsAlike cfg other where
  subject hauth := by
    unfold subject?
    rw [h.auth hauth]
  routes := h.routes.imp fun _ _ hroute => hroute.handler

theorem formatDoc_congr {doc other : String} (h : Text.trim doc = Text.trim other) :
    formatDoc doc = formatDoc other := by
  unfold formatDoc
  rw [← Text.toList_trim, h, Text.toList_trim]

/-- Groups and routes that read alike give handlers one plan. -/
theorem Naming.handlerPlan_readsLike {group other : Group} (hgroup : group.ReadsLike cfg other)
    {route route' : Route} (hroute : route.ReadsLike cfg route') (base : String) :
    handlerPlan cfg naming group route base = handlerPlan cfg naming other route' base := by
  have hsegments : folderSegments group route cfg = folderSegments other route' cfg := by
    unfold folderSegments folderAnnotation?
    rw [hroute.folder, hgroup.folder]
  have hrequest : route.hasRequest = route'.hasRequest := by
    unfold Route.hasRequest
    rw [hroute.requestType]
  have hresponse : route.hasResponse = route'.hasResponse := by
    unfold Route.hasResponse
    exact decide_eq_decide.2 (not_congr hroute.responseType)
  have hdoc : route.hasDoc = route'.hasDoc := by
    unfold Route.hasDoc
    rw [hroute.doc]
  unfold handlerPlan handlerFolder handlerImports logicFolder
  rw [hsegments, hrequest, hresponse, hdoc, hroute.requestType, formatDoc_congr hroute.doc]

theorem PlacedGroup.emitHandler_endAlike {placed other : PlacedGroup}
    (h : placed.group.ReadsLike cfg other.group) (routeIndex : Nat) {route route' : Route}
    (hroute : route.ReadsLike cfg route') :
    EndAlike Eq (placed.emitHandler cfg naming renderer routeIndex route)
      (other.emitHandler cfg naming renderer routeIndex route') := by
  have hplan : EndAlike Eq (placed.handlerPlan cfg naming routeIndex route)
      (other.handlerPlan cfg naming routeIndex route') := by
    refine (baseName_endAlike hroute.handler placed other routeIndex).bind_eq fun base => .ok ?_
    exact Naming.handlerPlan_readsLike h hroute base
  exact hplan.bind_eq fun plan => .refl _

theorem corresponds_of_readsLike : PlanCorrespondence cfg naming renderer (Group.ReadsLike cfg) Eq where
  refl _ := rfl
  path _ _ h := congrArg Artifact.path h
  guards _ _ := Group.ReadsLike.guardsAlike
  handlers _ _ h :=
    PlacedGroup.planHandlers_endAlike h.routes (fun _ _ hroute => hroute.handler)
      fun routeIndex _ _ hroute => PlacedGroup.emitHandler_endAlike h routeIndex hroute

theorem RouteGraph.plan_endAlike {graph other : RouteGraph}
    (h : graph.ReadsLike cfg other) (registry : TemplateRegistry) (engine : Template.Engine) :
    EndAlike Eq (graph.plan cfg registry engine) (other.plan cfg registry engine) := by
  have hplans : EndAlike (List.Forall₂ Eq) (graph.plan cfg registry engine)
      (other.plan cfg registry engine) :=
    plan_corresponds (fun _ _ _ => corresponds_of_readsLike) h
  rwa [List.forall₂_eq_eq_eq] at hplans

/-- Graphs that read alike have the same plan, or fail alike. In particular a graph and its essence do, so
nothing else in a graph shows in its plan. -/
theorem RouteGraph.plan_respects_reading {graph other : RouteGraph} (h : graph.ReadsLike cfg other)
    (registry : TemplateRegistry) (engine : Template.Engine) :
    EndAlike Eq (graph.plan cfg registry engine) (other.plan cfg registry engine) ∧
      EndAlike Eq (graph.plan cfg registry engine) ((graph.essence cfg).plan cfg registry engine) :=
  ⟨plan_endAlike h registry engine,
    plan_endAlike (graph.readsLike_essence cfg) registry engine⟩

/-- The graph `adminGraph` with display names, blanks and annotations that nobody reads. -/
def annotatedAdminGraph : RouteGraph where
  groups :=
    [{ name := some "health"
       routes := [{ handler := " pingHandler", annotations := .ofList [("auth", "pings")] }] },
     { annotations := .ofList [("auth", "users "), ("folder", "admin"), ("owner", "core")]
       routes := [{ handler := "listHandler\n" }, { handler := "create", doc := " " }] },
     { name := some "roles"
       annotations := .ofList [("auth", "roles"), ("folder", "\tadmin/")]
       routes := [{ handler := "listRoles", responseType := "  " }] }]

theorem adminGraph_readsLike : adminGraph.ReadsLike adminConfig annotatedAdminGraph := by
  decide +kernel

theorem adminGraph_plan_respects_reading :
    (adminGraph.plan adminConfig plainTemplates).isOk = true ∧
      adminGraph.ReadsLike adminConfig annotatedAdminGraph ∧
        EndAlike Eq (adminGraph.plan adminConfig plainTemplates)
          (annotatedAdminGraph.plan adminConfig plainTemplates) ∧
        EndAlike Eq (adminGraph.plan adminConfig plainTemplates)
          ((adminGraph.essence adminConfig).plan adminConfig plainTemplates) :=
  ⟨by decide +kernel, adminGraph_readsLike,
    RouteGraph.plan_respects_reading adminGraph_readsLike plainTemplates .standard⟩

end RouteScaffold
