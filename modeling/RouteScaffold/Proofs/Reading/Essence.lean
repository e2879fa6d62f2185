import Mathlib.Data.List.Forall2
import Mathlib.Tactic.MkIffOfInductiveProp
import RouteScaffold.Proofs.Positions

/-!
# What is read of a graph

Of a group its folder annotation is read and, with authorization, the one that names its subject; of a
route its token, its types, its documentation and its folder annotation, all without the blanks around
them. `ReadsLike` relates graphs that agree in this, and the essence of a graph keeps nothing else.
-/

namespace RouteScaffold

/-- Two routes that show a reader the same; of the response type only its presence is looked at. -/
@[mk_iff]
structure Route.ReadsLike (cfg : Config) (route other : Route) : Prop where
  handler : Text.trim route.handler = Text.trim other.handler
  requestType : Text.trim route.requestType = Text.trim other.requestType
  responseType : Text.trim route.responseType = "" ↔ Text.trim other.responseType = ""
  doc : Text.trim route.doc = Text.trim other.doc
  folder : route.annotation? cfg.annotations.folder = other.annotation? cfg.annotations.folder

@[mk_iff]
structure Group.ReadsLike (cfg : Config) (group other : Group) : Prop where
  folder : group.annotation? cfg.annotations.folder = other.annotation? cfg.annotations.folder
  auth : cfg.auth = true →
    group.annotation? cfg.annotations.auth = other.annotation? cfg.annotations.auth
  routes : List.Forall₂ (Route.ReadsLike cfg) group.routes other.routes

def RouteGraph.ReadsLike (cfg : Config) (graph other : RouteGraph) : Prop :=
  List.Forall₂ (Group.ReadsLike cfg) graph.groups other.groups

section Decidable

variable {cfg : Config}

instance {route other : Route} : Decidable (route.ReadsLike cfg other) :=
  decidable_of_iff' _ (Route.readsLike_iff cfg route other)

instance {group other : Group} : Decidable (group.ReadsLike cfg other) :=
  decidable_of_iff' _ (Group.readsLike_iff cfg group other)

instance {graph other : RouteGraph} : Decidable (graph.ReadsLike cfg other) :=
  inferInstanceAs (Decidable (List.Forall₂ (Group.ReadsLike cfg) graph.groups other.groups))

end Decidable

/-! ### The essence of a graph -/

/-- The trimmed values of the given keys, and no other entries. -/
def Annotations.restrict (annotations : Annotations) (keys : List String) : Annotations where
  entries := (annotations.entries.filter fun entry => keys.contains entry.1).map fun entry =>
    (entry.1, Text.trim entry.2)
  sorted := by
    rw [List.pairwise_map]
    exact annotations.sorted.sublist List.filter_sublist

/-- What is read of a route. -/
def Route.essence (cfg : Config) (route : Route) : Route where
  handler := Text.trim route.handler
  requestType := Text.trim route.requestType
  responseType := Text.trim route.responseType
  doc := Text.trim route.doc
  annotations := route.annotations.restrict [cfg.annotations.folder]

/-- What is read of a group: neither its display name nor an annotation without a purpose. -/
def Group.essence (cfg : Config) (group : Group) : Group where
  annotations := group.annotations.restrict
    (cfg.annotations.folder :: if cfg.auth then [cfg.annotations.auth] else [])
  routes := group.routes.map (Route.essence cfg)

def RouteGraph.essence (cfg : Config) (graph : RouteGraph) : RouteGraph where
  groups := graph.groups.map (Group.essence cfg)

theorem Annotations.find?_restrict {annotations : Annotations} {keys : List String} {key : String}
    (h : key ∈ keys) : (annotations.restrict keys).find? key = annotations.find? key := by
  have hfound : ∀ entry : String × String,
      decide (keys.contains entry.1 = true ∧ (compare key entry.1 == .eq) = true) =
        (compare key entry.1 == .eq) := by
    intro entry
    cases hcompare : compare key entry.1 == .eq with
    | false => simp
    | true =>
      rw [← Std.LawfulEqOrd.eq_of_compare (beq_iff_eq.1 hcompare)]
      simp [h]
  have hget : (annotations.restrict keys).get? key = (annotations.get? key).map Text.trim := by
    unfold restrict SortedMap.get?
    rw [List.find?_map, List.find?_filter, Option.map_map, Option.map_map]
    simp only [Function.comp_def, hfound]
  unfold find?
  rw [hget, Option.map_map]
  simp only [Function.comp_def, Text.trim_trim]

theorem Route.readsLike_essence (cfg : Config) (route : Route) :
    route.ReadsLike cfg (route.essence cfg) where
  handler := (Text.trim_trim route.handler).symm
  requestType := (Text.trim_trim route.requestType).symm
  responseType := by rw [essence, Text.trim_trim]
  doc := (Text.trim_trim route.doc).symm
  folder := (Annotations.find?_restrict List.mem_cons_self).symm

theorem Group.readsLike_essence (cfg : Config) (group : Group) :
    group.ReadsLike cfg (group.essence cfg) where
  folder := (Annotations.find?_restrict List.mem_cons_self).symm
  auth hauth := by
    have hkey : cfg.annotations.auth ∈
        cfg.annotations.folder :: if cfg.auth then [cfg.annotations.auth] else [] := by
      rw [if_pos hauth]
      exact List.mem_cons_of_mem _ List.mem_cons_self
    exact (Annotations.find?_restrict hkey).symm
  routes := by
    rw [essence, List.forall₂_map_right_iff, List.forall₂_same]
    exact fun route _ => route.readsLike_essence cfg

theorem RouteGraph.readsLike_essence (cfg : Config) (graph : RouteGraph) :
    graph.ReadsLike cfg (graph.essence cfg) := by
  rw [ReadsLike, essence, List.forall₂_map_right_iff, List.forall₂_same]
  exact fun group _ => group.readsLike_essence cfg

end RouteScaffold
