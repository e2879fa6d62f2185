import Mathlib.Data.List.Forall2
import RouteScaffold.Naming.Subject

/-!
# Groups and routes with their positions

The walks over a graph number its groups and the routes of each group. Here the numbered lists are
taken back to the plain ones.
-/

namespace RouteScaffold

/-- Routes with their positions, counted from `start`. -/
def numbered (start : Nat) (routes : List Route) : List (Nat × Route) :=
  (routes.zipIdx start).map fun p => (p.2, p.1)

@[simp] theorem numbered_nil (start : Nat) : numbered start [] = [] := rfl

@[simp] theorem numbered_cons (start : Nat) (route : Route) (routes : List Route) :
    numbered start (route :: routes) = (start, route) :: numbered (start + 1) routes := rfl

theorem numbered_append (start : Nat) (routes others : List Route) :
    numbered start (routes ++ others) =
      numbered start routes ++ numbered (start + routes.length) others := by
  rw [numbered, List.zipIdx_append, List.map_append]
  rfl

theorem PlacedGroup.routes_eq_numbered (placed : PlacedGroup) :
    placed.routes = numbered 0 placed.group.routes := rfl

theorem map_snd_numbered (start : Nat) (routes : List Route) :
    (numbered start routes).map Prod.snd = routes := by
  induction routes generalizing start with
  | nil => rfl
  | cons route routes ih => rw [numbered_cons, List.map_cons, ih]

theorem map_fst_numbered (start : Nat) (routes : List Route) :
    (numbered start routes).map Prod.fst = List.range' start routes.length := by
  rw [← List.zipIdx_map_snd start routes, numbered, List.map_map]
  rfl

theorem getElem?_numbered (routes : List Route) (i : Nat) :
    (numbered 0 routes)[i]? = routes[i]?.map fun route => (i, route) := by
  simp [numbered, List.getElem?_zipIdx, Function.comp_def]

theorem fst_lt_of_mem_numbered {routes : List Route} {p : Nat × Route}
    (hp : p ∈ numbered 0 routes) : p.1 < routes.length := by
  have hfst : p.1 ∈ (numbered 0 routes).map Prod.fst := List.mem_map_of_mem hp
  rw [map_fst_numbered, List.mem_range'_1] at hfst
  omega

theorem snd_mem_of_mem_numbered {start : Nat} {routes : List Route} {p : Nat × Route}
    (hp : p ∈ numbered start routes) : p.2 ∈ routes := by
  have hsnd : p.2 ∈ (numbered start routes).map Prod.snd := List.mem_map_of_mem hp
  rwa [map_snd_numbered] at hsnd

theorem pairwise_numbered (routes : List Route) :
    (numbered 0 routes).Pairwise fun p q => p.1 < q.1 := by
  rw [← List.pairwise_map (f := Prod.fst), map_fst_numbered]
  exact List.pairwise_lt_range'

/-- Routes that correspond one by one do so with their positions. -/
theorem forall₂_numbered {R : Route → Route → Prop} {routes others : List Route}
    (h : List.Forall₂ R routes others) (start : Nat) :
    List.Forall₂ (fun p q => p.1 = q.1 ∧ R p.2 q.2) (numbered start routes) (numbered start others) := by
  induction h generalizing start with
  | nil => exact .nil
  | cons hroute _ ih => exact .cons ⟨rfl, hroute⟩ (ih (start + 1))

theorem exists_getElem?_of_forall₂ {α β : Type} {R : α → β → Prop} {xs : List α} {ys : List β}
    (h : List.Forall₂ R xs ys) {k : Nat} {x : α} (hx : xs[k]? = some x) :
    ∃ y, ys[k]? = some y ∧ R x y := by
  obtain ⟨hk, rfl⟩ := List.getElem?_eq_some_iff.1 hx
  have hk' : k < ys.length := h.length_eq ▸ hk
  exact ⟨ys[k], List.getElem?_eq_getElem hk', h.get hk hk'⟩

theorem PlacedGroup.toPlacedGroup_of_guarded? {placed : PlacedGroup} {cfg : Config}
    {guarded : GuardedGroup} (h : placed.guarded? cfg = some guarded) :
    guarded.toPlacedGroup = placed := by
  obtain ⟨subject, -, rfl⟩ := Option.map_eq_some_iff.1 h
  rfl

/-- The group with its subject, if it has one. -/
def Group.charge? (group : Group) (cfg : Config) : Option (Subject × Group) :=
  (group.subject? cfg).map fun subject => (subject, group)

namespace RouteGraph

variable {graph : RouteGraph} {cfg : Config}

/-- The guarded groups with their subjects; where they stand in the graph is left out. -/
def charges (graph : RouteGraph) (cfg : Config) : List (Subject × Group) :=
  graph.groups.filterMap (·.charge? cfg)

theorem map_group_placed : graph.placed.map (·.group) = graph.groups := by
  rw [placed, List.map_map]
  exact List.zipIdx_map_fst 0 graph.groups

theorem forall_mem_placed {P : Group → Prop} :
    (∀ placed ∈ graph.placed, P placed.group) ↔ ∀ group ∈ graph.groups, P group := by
  rw [← map_group_placed, List.forall_mem_map]

theorem forall_mem_guarded {P : Subject → Group → Prop} :
    (∀ guarded ∈ graph.guarded cfg, P guarded.subject guarded.group) ↔
      ∀ group ∈ graph.groups, ∀ subject, group.subject? cfg = some subject → P subject group := by
  rw [← forall_mem_placed]
  constructor
  · intro h placed hplaced subject hsubject
    apply h { placed with subject }
    exact List.mem_filterMap.2 ⟨placed, hplaced, Option.map_eq_some_iff.2 ⟨subject, hsubject, rfl⟩⟩
  · intro h guarded hguarded
    obtain ⟨placed, hplaced, hguarded⟩ := List.mem_filterMap.1 hguarded
    obtain ⟨subject, hsubject, rfl⟩ := Option.map_eq_some_iff.1 hguarded
    exact h placed hplaced subject hsubject

theorem forall₂_placed {R : Group → Group → Prop} {other : RouteGraph}
    (h : List.Forall₂ R graph.groups other.groups) :
    List.Forall₂ (fun placed placed' => R placed.group placed'.group) graph.placed other.placed := by
  rwa [← @map_group_placed graph, ← @map_group_placed other, List.forall₂_map_left_iff,
    List.forall₂_map_right_iff] at h

theorem map_charge_guarded :
    (graph.guarded cfg).map (fun guarded => (guarded.subject, guarded.group)) =
      graph.charges cfg := by
  rw [guarded, List.map_filterMap, charges, ← map_group_placed, List.filterMap_map]
  refine List.filterMap_congr fun placed _ => ?_
  rw [PlacedGroup.guarded?, Option.map_map]
  rfl

theorem mem_guarded {placed : PlacedGroup} (hplaced : placed ∈ graph.placed)
    {guarded : GuardedGroup} (h : placed.guarded? cfg = some guarded) :
    guarded ∈ graph.guarded cfg :=
  List.mem_filterMap.2 ⟨placed, hplaced, h⟩

end RouteGraph

end RouteScaffold
