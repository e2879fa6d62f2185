import Mathlib.Data.List.Forall2
import Mathlib.Logic.Relation
import RouteScaffold.Proofs.Authorization.Agreement

/-!
# Codes of a growing graph

A code is made from the place of a group among the guarded ones and the place of a route in its group.
A graph may grow without moving either: groups get routes at their end, groups without a subject come in
anywhere, and further groups come after the others. Published entries then stay as they are.

Each step of growth keeps the guarded groups at their places, and so does a chain of steps.

The main statement is `denialGroups_grow`.
-/

namespace RouteScaffold

/-- A step of growth that moves no guarded group and no route. -/
inductive GrowthStep (cfg : Config) : RouteGraph → RouteGraph → Prop where
  | appendRoutes (before : List Group) (group : Group) (after : List Group) (routes : List Route) :
      GrowthStep cfg ⟨before ++ group :: after⟩
        ⟨before ++ { group with routes := group.routes ++ routes } :: after⟩
  | insertPlain (before : List Group) (group : Group) (after : List Group)
      (plain : group.subject? cfg = none) :
      GrowthStep cfg ⟨before ++ after⟩ ⟨before ++ group :: after⟩
  | appendGroup (groups : List Group) (group : Group) :
      GrowthStep cfg ⟨groups⟩ ⟨groups ++ [group]⟩

/-- Any combination of such steps. -/
def RouteGraph.GrowsTo (cfg : Config) : RouteGraph → RouteGraph → Prop :=
  Relation.ReflTransGen (GrowthStep cfg)

/-- A group of the catalog in a later one: the same block, with further entries at most. -/
structure DenialGroup.ContinuedBy (group later : DenialGroup) : Prop where
  subject : later.subject = group.subject
  policyKey : later.policyKey = group.policyKey
  groupIndex : later.groupIndex = group.groupIndex
  entries : group.entries <+: later.entries

/-- The same subject, with further routes at most. -/
def ChargeGrows (charge grown : Subject × Group) : Prop :=
  grown.1 = charge.1 ∧ charge.2.routes <+: grown.2.routes

namespace RouteGraph

variable {cfg : Config} {graph other third : RouteGraph}

/-- No guarded group has left its place among the guarded ones. -/
def KeepsPlaces (cfg : Config) (graph other : RouteGraph) : Prop :=
  ∀ (k : Nat) (charge : Subject × Group), (graph.charges cfg)[k]? = some charge →
    ∃ grown, (other.charges cfg)[k]? = some grown ∧ ChargeGrows charge grown

theorem KeepsPlaces.refl (cfg : Config) (graph : RouteGraph) : KeepsPlaces cfg graph graph :=
  fun _ charge hcharge => ⟨charge, hcharge, rfl, List.prefix_rfl⟩

theorem KeepsPlaces.trans (h : KeepsPlaces cfg graph other) (h' : KeepsPlaces cfg other third) :
    KeepsPlaces cfg graph third := by
  intro k charge hcharge
  obtain ⟨grown, hgrown, hsubject, hroutes⟩ := h k charge hcharge
  obtain ⟨last, hlast, hsubject', hroutes'⟩ := h' k grown hgrown
  exact ⟨last, hlast, hsubject'.trans hsubject, hroutes.trans hroutes'⟩

theorem charges_append (groups others : List Group) :
    charges ⟨groups ++ others⟩ cfg = charges ⟨groups⟩ cfg ++ charges ⟨others⟩ cfg :=
  List.filterMap_append

/-- The subject is read off the annotations, so a group that gets more routes keeps it. -/
theorem keepsPlaces_of_forall₂
    (h : List.Forall₂ (fun group grown : Group =>
      grown.annotations = group.annotations ∧ group.routes <+: grown.routes) graph.groups other.groups) :
    KeepsPlaces cfg graph other := by
  have hcharges : List.Forall₂ ChargeGrows (graph.charges cfg) (other.charges cfg) := by
    refine List.rel_filterMap (fun group grown hgrown => ?_) h
    have hsubject : grown.subject? cfg = group.subject? cfg := by
      unfold Group.subject? Group.annotation?
      rw [hgrown.1]
    unfold Group.charge?
    rw [hsubject]
    cases group.subject? cfg with
    | none => exact .none
    | some subject => exact .some ⟨rfl, hgrown.2⟩
  exact fun k charge hcharge => exists_getElem?_of_forall₂ hcharges hcharge

theorem keepsPlaces_of_growthStep (h : GrowthStep cfg graph other) : KeepsPlaces cfg graph other := by
  cases h with
  | appendRoutes before group after routes =>
    apply keepsPlaces_of_forall₂
    apply List.rel_append
    · exact List.forall₂_same.2 fun _ _ => ⟨rfl, List.prefix_rfl⟩
    · refine .cons ⟨rfl, List.prefix_append _ _⟩ ?_
      exact List.forall₂_same.2 fun _ _ => ⟨rfl, List.prefix_rfl⟩
  | insertPlain before group after plain =>
    have hcharges : charges ⟨before ++ group :: after⟩ cfg = charges ⟨before ++ after⟩ cfg := by
      rw [charges_append, charges_append]
      refine congrArg _ (List.filterMap_cons_none ?_)
      rw [Group.charge?, plain, Option.map_none]
    intro k charge hcharge
    rw [hcharges]
    exact KeepsPlaces.refl cfg _ k charge hcharge
  | appendGroup groups group =>
    intro k charge hcharge
    refine ⟨charge, ?_, rfl, List.prefix_rfl⟩
    rw [charges_append, List.getElem?_append_left (List.getElem?_eq_some_iff.1 hcharge).1]
    exact hcharge

theorem keepsPlaces_of_growsTo (h : graph.GrowsTo cfg other) : KeepsPlaces cfg graph other := by
  induction h with
  | refl => exact .refl cfg graph
  | tail _ hstep ih => exact ih.trans (keepsPlaces_of_growthStep hstep)

end RouteGraph

/-! ### The catalog -/

/-- The entries of a group depend on its subject, its block and the positions of its routes. -/
theorem GuardedGroup.continuedBy_denialGroupAt {guarded grown : GuardedGroup}
    (hsubject : grown.subject = guarded.subject)
    (hroutes : guarded.group.routes <+: grown.group.routes) (block : Nat) :
    (guarded.denialGroupAt block).ContinuedBy (grown.denialGroupAt block) where
  subject := congrArg Subject.ident hsubject
  policyKey := congrArg Subject.policyKey hsubject
  groupIndex := rfl
  entries := by
    obtain ⟨more, hmore⟩ := hroutes
    have hentry : ∀ p : Nat × Route, grown.entryAt block p.1 p.2 = guarded.entryAt block p.1 p.2 := by
      intro p
      unfold entryAt entryName
      rw [hsubject]
    unfold denialGroupAt
    rw [PlacedGroup.routes_eq_numbered, PlacedGroup.routes_eq_numbered, ← hmore, numbered_append,
      List.map_append]
    simp only [hentry]
    exact List.prefix_append _ _

theorem RouteGraph.getElem?_charges {graph : RouteGraph} {cfg : Config} {k : Nat} :
    (graph.charges cfg)[k]? =
      (graph.guarded cfg)[k]?.map fun guarded => (guarded.subject, guarded.group) := by
  rw [← map_charge_guarded, List.getElem?_map]

/-- When a graph and a graph that it grows to both have a catalog, every group of the first catalog goes on
in the second: in the same block, with the same entries and perhaps further ones. -/
theorem RouteGraph.denialGroups_grow {graph other : RouteGraph} {cfg : Config}
    {groups later : List DenialGroup} (hgroups : graph.denialGroups cfg = .ok groups)
    (hlater : other.denialGroups cfg = .ok later) (hgrows : graph.GrowsTo cfg other) :
    ∀ group ∈ groups, ∃ group' ∈ later, group.ContinuedBy group' := by
  obtain ⟨-, rfl⟩ := denialGroups_eq_ok_iff.1 hgroups
  obtain ⟨-, rfl⟩ := denialGroups_eq_ok_iff.1 hlater
  intro group hgroup
  obtain ⟨k, hk⟩ := List.mem_iff_getElem?.1 hgroup
  rw [getElem?_catalogAt, Option.map_eq_some_iff] at hk
  obtain ⟨guarded, hguarded, rfl⟩ := hk
  have hcharge : (graph.charges cfg)[k]? = some (guarded.subject, guarded.group) := by
    rw [getElem?_charges, hguarded, Option.map_some]
  obtain ⟨_, hother, hsubject, hroutes⟩ := keepsPlaces_of_growsTo hgrows k _ hcharge
  rw [getElem?_charges, Option.map_eq_some_iff] at hother
  obtain ⟨grown, hgrown, rfl⟩ := hother
  refine ⟨grown.denialGroupAt k, ?_, GuardedGroup.continuedBy_denialGroupAt hsubject hroutes k⟩
  apply List.mem_of_getElem?
  rw [getElem?_catalogAt, hgrown, Option.map_some]

/-- The graph `usersGraph` with a health check, one more action on users and a group that guards roles. -/
def grownUsersGraph : RouteGraph where
  groups :=
    [{ routes := [{ handler := "pingHandler" }] },
     { routes := [{ handler := "healthHandler" }] },
     { annotations := .ofList [("group", "users")]
       routes := [{ handler := "listAllHandler" }, { handler := "create" }, { handler := "delete" }] },
     { annotations := .ofList [("group", "roles")]
       routes := [{ handler := "listRoles" }] }]

theorem usersGraph_growsTo : usersGraph.GrowsTo {} grownUsersGraph := by
  refine .head (.appendRoutes [_] _ [] [{ handler := "delete" }]) ?_
  refine .head (.insertPlain [_] { routes := [{ handler := "healthHandler" }] } [_] ?_) ?_
  · decide +kernel
  · exact .single (.appendGroup [_, _, _] _)

theorem usersGraph_denialGroups_grow :
    ∃ groups later, usersGraph.denialGroups {} = .ok groups ∧
      grownUsersGraph.denialGroups {} = .ok later ∧ usersGraph.GrowsTo {} grownUsersGraph ∧
        ∀ group ∈ groups, ∃ group' ∈ later, group.ContinuedBy group' := by
  obtain ⟨groups, hgroups⟩ : ∃ groups, usersGraph.denialGroups {} = .ok groups :=
    Except.isOk_eq_true_iff.1 (by decide +kernel)
  obtain ⟨later, hlater⟩ : ∃ later, grownUsersGraph.denialGroups {} = .ok later :=
    Except.isOk_eq_true_iff.1 (by decide +kernel)
  exact ⟨groups, later, hgroups, hlater, usersGraph_growsTo,
    RouteGraph.denialGroups_grow hgroups hlater usersGraph_growsTo⟩

end RouteScaffold
