import Mathlib.Data.List.Perm.Subperm
import RouteScaffold.Proofs.Plan.Acceptance
import RouteScaffold.Proofs.Plan.Blueprint

/-!
# Plans of thinned graphs

A graph is thinned by leaving out groups and routes and putting the others in any order. What a plan needs
is that there is not too much of something and that no name and no path is made twice, and both pass on to
every part in every order. So a graph that is thinned keeps its plan, and since one blueprint serves both
graphs, what is left comes out as before.

The main statement is `plan_thins`.
-/

namespace List

variable {α β : Type} {xs ys : List α}

theorem Nodup.of_subperm (hys : ys.Nodup) (h : xs.Subperm ys) : xs.Nodup := by
  obtain ⟨zs, hperm, hsub⟩ := h
  exact hperm.nodup_iff.1 (hys.sublist hsub)

theorem subperm_map (f : α → β) (h : xs.Subperm ys) : (xs.map f).Subperm (ys.map f) := by
  obtain ⟨zs, hperm, hsub⟩ := h
  exact ⟨zs.map f, hperm.map f, hsub.map f⟩

theorem subperm_flatMap (f : α → List β) (h : xs.Subperm ys) :
    (xs.flatMap f).Subperm (ys.flatMap f) := by
  obtain ⟨zs, hperm, hsub⟩ := h
  exact ⟨zs.flatMap f, hperm.flatMap fun _ _ => .refl _, hsub.flatMap f⟩

theorem Forall₂.subperm_flatMap {R : α → α → Prop} {f : α → List β} (h : Forall₂ R xs ys)
    (hf : ∀ x y, R x y → (f x).Subperm (f y)) : (xs.flatMap f).Subperm (ys.flatMap f) := by
  induction h with
  | nil => exact Subperm.refl []
  | cons hxy _ ih =>
    rw [flatMap_cons, flatMap_cons]
    exact (hf _ _ hxy).append ih

end List

namespace RouteScaffold

/-- Some routes are left out, and the others stand in any order. -/
def Group.Thins (thinned group : Group) : Prop :=
  ∃ routes, routes.Subperm group.routes ∧ thinned = { group with routes }

/-- Some groups are left out, and the others stand in any order, each of them thinned. -/
def RouteGraph.Thins (thinned graph : RouteGraph) : Prop :=
  ∃ kept, kept.Subperm graph.groups ∧ List.Forall₂ Group.Thins thinned.groups kept

variable {cfg : Config} {naming : Naming.NamingFormat}

namespace PlacedGroup

variable {placed other : PlacedGroup}

theorem authPaths_congr (h : placed.group.subject? cfg = other.group.subject? cfg) :
    placed.authPaths cfg = other.authPaths cfg := by
  unfold authPaths guarded?
  rw [h]
  cases other.group.subject? cfg <;> rfl

theorem plannedPaths_eq (placed : PlacedGroup) :
    placed.plannedPaths cfg naming = (PlacedGroup.mk 0 placed.group).plannedPaths cfg naming :=
  congrArg (· ++ placed.handlerPaths cfg naming) (authPaths_congr rfl)

end PlacedGroup

/-- The interface stays where it is, since the subject does not depend on the routes. -/
theorem Group.Thins.subperm_plannedPaths {thinned group : Group} (h : thinned.Thins group) :
    ((PlacedGroup.mk 0 thinned).plannedPaths cfg naming).Subperm
      ((PlacedGroup.mk 0 group).plannedPaths cfg naming) := by
  obtain ⟨routes, hroutes, rfl⟩ := h
  have hauth : (PlacedGroup.mk 0 { group with routes }).authPaths cfg =
      (PlacedGroup.mk 0 group).authPaths cfg := PlacedGroup.authPaths_congr rfl
  unfold PlacedGroup.plannedPaths
  rw [hauth]
  exact (List.Subperm.refl _).append (List.subperm_map _ hroutes)

namespace RouteGraph

variable {thinned graph : RouteGraph}

theorem Thins.exists_of_mem (h : thinned.Thins graph) {left : Group} (hleft : left ∈ thinned.groups) :
    ∃ group ∈ graph.groups, left.Thins group := by
  obtain ⟨kept, hkept, hgroups⟩ := h
  obtain ⟨k, hk⟩ := List.mem_iff_getElem?.1 hleft
  obtain ⟨group, hgroup, hthins⟩ := exists_getElem?_of_forall₂ hgroups hk
  exact ⟨group, hkept.subset (List.mem_of_getElem? hgroup), hthins⟩

/-- What is made group by group is made of a thinned graph in part, in some order. -/
theorem Thins.subperm_flatMap {α : Type} {f : Group → List α} (h : thinned.Thins graph)
    (hf : ∀ left group, left.Thins group → (f left).Subperm (f group)) :
    (thinned.groups.flatMap f).Subperm (graph.groups.flatMap f) := by
  obtain ⟨kept, hkept, hgroups⟩ := h
  exact (hgroups.subperm_flatMap hf).trans (List.subperm_flatMap f hkept)

/-- The same for what guarded groups bring, which may depend on their subjects. -/
theorem Thins.subperm_guarded {α : Type} (h : thinned.Thins graph) (f : Subject → Group → List α)
    (hf : ∀ subject left group, left.Thins group → (f subject left).Subperm (f subject group)) :
    ((thinned.guarded cfg).flatMap fun guarded => f guarded.subject guarded.group).Subperm
      ((graph.guarded cfg).flatMap fun guarded => f guarded.subject guarded.group) := by
  have hcharges : ∀ graph : RouteGraph,
      ((graph.guarded cfg).flatMap fun guarded => f guarded.subject guarded.group) =
        graph.groups.flatMap fun group => (group.charge? cfg).toList.flatMap fun charge =>
          f charge.1 charge.2 := by
    intro graph
    rw [← List.flatMap_assoc, ← List.filterMap_eq_flatMap_toList, ← charges, ← map_charge_guarded,
      List.flatMap_map]
  rw [hcharges, hcharges]
  refine h.subperm_flatMap fun left group hleft => ?_
  obtain ⟨routes, hroutes, rfl⟩ := hleft
  have hsubject : Group.subject? { group with routes } cfg = group.subject? cfg := rfl
  unfold Group.charge?
  rw [hsubject]
  cases group.subject? cfg with
  | none => exact List.Subperm.refl []
  | some subject =>
    simp only [Option.map_some, Option.toList_some, List.flatMap_singleton]
    exact hf subject _ group ⟨routes, hroutes, rfl⟩

theorem Thins.subperm_plannedPaths (h : thinned.Thins graph) :
    (thinned.plannedPaths cfg naming).Subperm (graph.plannedPaths cfg naming) := by
  have hgroups : ∀ graph : RouteGraph, graph.placed.flatMap (·.plannedPaths cfg naming) =
      graph.groups.flatMap fun group => (PlacedGroup.mk 0 group).plannedPaths cfg naming := by
    intro graph
    rw [← map_group_placed, List.flatMap_map]
    exact List.flatMap_congr fun placed _ => placed.plannedPaths_eq
  unfold plannedPaths
  rw [hgroups, hgroups]
  apply List.Subperm.append
  · exact List.Subperm.refl _
  · exact h.subperm_flatMap fun _ _ => Group.Thins.subperm_plannedPaths

theorem Thins.subperm_entryNames (h : thinned.Thins graph) :
    (thinned.entryNames cfg).Subperm (graph.entryNames cfg) := by
  have hnames : ∀ graph : RouteGraph, graph.entryNames cfg =
      (graph.guarded cfg).flatMap fun guarded => guarded.group.routes.map fun route =>
        denialName guarded.subject.ident (Naming.actionName route.base) := fun _ => rfl
  have hgroup : ∀ (subject : Subject) (left group : Group), left.Thins group →
      (left.routes.map fun route => denialName subject.ident (Naming.actionName route.base)).Subperm
        (group.routes.map fun route => denialName subject.ident (Naming.actionName route.base)) := by
    rintro subject _ group ⟨routes, hroutes, rfl⟩
    exact List.subperm_map _ hroutes
  rw [hnames, hnames]
  exact h.subperm_guarded _ hgroup

theorem Thins.length_guarded_le (h : thinned.Thins graph) :
    (thinned.guarded cfg).length ≤ (graph.guarded cfg).length := by
  have hsubjects : ((thinned.guarded cfg).flatMap fun guarded => [guarded.subject]).Subperm
      ((graph.guarded cfg).flatMap fun guarded => [guarded.subject]) :=
    h.subperm_guarded (fun subject _ => [subject]) fun _ _ _ _ => List.Subperm.refl _
  simpa using hsubjects.length_le

theorem Plannable.thins (h : graph.Plannable cfg) (hthins : thinned.Thins graph) :
    thinned.Plannable cfg where
  naming := h.naming
  bases := by
    intro left hleft route hroute
    obtain ⟨group, hgroup, routes, hroutes, rfl⟩ := hthins.exists_of_mem hleft
    exact h.bases group hgroup route (hroutes.subset hroute)
  routes hauth := by
    have hroutes := h.routes hauth
    rw [forall_mem_guarded (P := fun _ group => group.routes.length ≤ 99)] at hroutes ⊢
    intro left hleft subject hsubject
    obtain ⟨group, hgroup, routes, hsubperm, rfl⟩ := hthins.exists_of_mem hleft
    exact Nat.le_trans hsubperm.length_le (hroutes group hgroup subject hsubject)
  groups hauth := Nat.le_trans hthins.length_guarded_le (h.groups hauth)
  names hauth := (h.names hauth).of_subperm hthins.subperm_entryNames
  paths naming hnaming := (h.paths naming hnaming).of_subperm
    (List.subperm_map _ hthins.subperm_plannedPaths)

/-- A graph with a plan keeps one when it is thinned. One blueprint lays out both plans: a route that is
left has the same handler, a group that keeps its routes the same interface, and the policy table the same
rows for what is left. -/
theorem plan_thins {artifacts : List Artifact} (hplan : graph.plan cfg .builtIn = .ok artifacts) :
    ∃ naming renderer, ∃ blueprint : Blueprint, cfg.naming = .ok naming ∧
      TemplateRegistry.builtIn.compile = .ok renderer ∧
        blueprint.LaysOut cfg naming renderer graph artifacts ∧
          ∀ thinned : RouteGraph, thinned.Thins graph →
            ∃ left, thinned.plan cfg .builtIn = .ok left ∧
              blueprint.LaysOut cfg naming renderer thinned left := by
  obtain ⟨renderer, hcompile, hrenderer⟩ := exists_builtIn_renderer
  obtain ⟨naming, -, -, hnaming, -⟩ := plan_eq_ok_iff.1 hplan
  refine ⟨naming, renderer, cfg.blueprint naming renderer, hnaming, hcompile,
    laysOut_of_plan hnaming hcompile hplan, fun thinned hthins => ?_⟩
  obtain ⟨left, hleft⟩ := ((plannable_of_plan hplan).thins hthins).exists_plan hcompile hrenderer
  exact ⟨left, hleft, laysOut_of_plan hnaming hcompile hleft⟩

end RouteGraph

/-- Of `adminGraph` the group for roles, then the one for users with a single route. -/
def thinnedAdminGraph : RouteGraph where
  groups :=
    [{ annotations := .ofList [("auth", "roles"), ("folder", "admin/")]
       routes := [{ handler := "listRoles" }] },
     { annotations := .ofList [("auth", "users"), ("folder", "admin")]
       routes := [{ handler := "create" }] }]

theorem thinnedAdminGraph_thins : thinnedAdminGraph.Thins adminGraph := by
  refine ⟨adminGraph.groups.tail.reverse, ?_, ?_⟩
  · exact (List.reverse_perm _).subperm.trans (List.tail_sublist _).subperm
  · refine .cons ⟨_, List.Subperm.refl _, rfl⟩ (.cons ⟨_, ?_, rfl⟩ .nil)
    exact (List.sublist_cons_self _ _).subperm

theorem adminGraph_plan_thins :
    ∃ artifacts naming renderer, ∃ blueprint : Blueprint,
      adminGraph.plan adminConfig .builtIn = .ok artifacts ∧
        blueprint.LaysOut adminConfig naming renderer adminGraph artifacts ∧
          ∃ left, thinnedAdminGraph.plan adminConfig .builtIn = .ok left ∧
            blueprint.LaysOut adminConfig naming renderer thinnedAdminGraph left := by
  obtain ⟨_, hplain⟩ := exists_plan_adminGraph
  obtain ⟨_, hcompile, hrenderer⟩ := exists_builtIn_renderer
  obtain ⟨artifacts, hplan⟩ :=
    (RouteGraph.plannable_of_plan hplain).exists_plan hcompile hrenderer
  obtain ⟨naming, renderer, blueprint, -, -, hlays, hthinned⟩ := RouteGraph.plan_thins hplan
  exact ⟨artifacts, naming, renderer, blueprint, hplan, hlays,
    hthinned thinnedAdminGraph thinnedAdminGraph_thins⟩

end RouteScaffold
