import RouteScaffold.Authorization.Catalog
import RouteScaffold.Proofs.Distinct
import RouteScaffold.Proofs.Naming.Base
import RouteScaffold.Proofs.Positions

/-!
# The places of the denial catalog

The catalog is made place by place: the block of a guarded group, then the entry of each of its
routes, then the next group. This module says what belongs at each place and what can be wrong with
it, without a ledger: `Place.failure?` looks only at the places before it.

`firstFailure` is the failure of the first place that has one. It is what a faultless pass has to
report, and `firstFailure_eq_none_iff` says when there is none.
-/

namespace RouteScaffold

namespace GuardedGroup

def entryName (guarded : GuardedGroup) (route : Route) : String :=
  denialName guarded.subject.ident (Naming.actionName route.base)

def entryAt (guarded : GuardedGroup) (block routeIndex : Nat) (route : Route) : DenialEntry :=
  { name := guarded.entryName route
    code := 2000 + 100 * block + routeIndex + 1
    message := denialMessage guarded.subject.snake (Naming.snakeCase route.base) }

def denialGroupAt (guarded : GuardedGroup) (block : Nat) : DenialGroup :=
  { subject := guarded.subject.ident
    policyKey := guarded.subject.policyKey
    groupIndex := block
    entries := guarded.routes.map fun p => guarded.entryAt block p.1 p.2 }

end GuardedGroup

/-- The catalog of a graph by its positions: the guarded groups in graph order, with their blocks. -/
def RouteGraph.catalogAt (graph : RouteGraph) (cfg : Config) : List DenialGroup :=
  (graph.guarded cfg).zipIdx.map fun p => p.1.denialGroupAt p.2

def RouteGraph.entryNames (graph : RouteGraph) (cfg : Config) : List String :=
  (graph.guarded cfg).flatMap fun guarded => guarded.group.routes.map guarded.entryName

namespace Catalog

/-- A place of the catalog: the block of a group or the entry of a route. -/
inductive Place where
  | block (index : Nat) (guarded : GuardedGroup)
  | entry (guarded : GuardedGroup) (routeIndex : Nat) (route : Route)

namespace Place

def name? (cfg : Config) : Place → Option (String × RouteRef)
  | .block .. => none
  | .entry guarded routeIndex route =>
    some (guarded.entryName route, guarded.routeRef cfg routeIndex route)

end Place

def takenNames (cfg : Config) (places : List Place) : List (String × RouteRef) :=
  places.filterMap (Place.name? cfg)

/-- A block is refused for a group that is too large or that lies past the last code. -/
def blockFailure? (index : Nat) (guarded : GuardedGroup) : Option Failure :=
  if 99 < guarded.group.routes.length then
    some (.codeBlockOverflow guarded.subject.ident guarded.group.routes.length 99)
  else if 42949651 < index then some (.codeRangeExhausted guarded.subject.ident index)
  else none

/-- An entry is refused for a token without a base, or for a name that an earlier route took. -/
def entryFailure? (cfg : Config) (earlier : List Place) (guarded : GuardedGroup)
    (routeIndex : Nat) (route : Route) : Option Failure :=
  match Naming.tokenBase route.handler with
  | .error fault => some (.namingResolution (guarded.routeRef cfg routeIndex route) fault)
  | .ok _ =>
    ((takenNames cfg earlier).lookup (guarded.entryName route)).map fun first =>
      .duplicateIdentifier (guarded.entryName route) first (guarded.routeRef cfg routeIndex route)

def Place.failure? (cfg : Config) (earlier : List Place) : Place → Option Failure
  | .block index guarded => blockFailure? index guarded
  | .entry guarded routeIndex route => entryFailure? cfg earlier guarded routeIndex route

/-- The failure of the first place that has one, when the places follow the given ones. -/
def firstFailure (cfg : Config) (earlier : List Place) : List Place → Option Failure
  | [] => none
  | place :: rest => (place.failure? cfg earlier).or (firstFailure cfg (earlier ++ [place]) rest)

def entryPlaces (guarded : GuardedGroup) (routes : List (Nat × Route)) : List Place :=
  routes.map fun p => .entry guarded p.1 p.2

def groupPlaces (index : Nat) (guarded : GuardedGroup) : List Place :=
  .block index guarded :: entryPlaces guarded guarded.routes

/-- The places of groups whose blocks are counted from `start`. -/
def placesFrom (start : Nat) (groups : List GuardedGroup) : List Place :=
  (groups.zipIdx start).flatMap fun p => groupPlaces p.2 p.1

@[simp] theorem placesFrom_nil (start : Nat) : placesFrom start [] = [] := rfl

@[simp] theorem placesFrom_cons (start : Nat) (guarded : GuardedGroup)
    (groups : List GuardedGroup) :
    placesFrom start (guarded :: groups) =
      groupPlaces start guarded ++ placesFrom (start + 1) groups := rfl

theorem takenNames_append (cfg : Config) (xs ys : List Place) :
    takenNames cfg (xs ++ ys) = takenNames cfg xs ++ takenNames cfg ys :=
  List.filterMap_append

theorem takenNames_cons (cfg : Config) (place : Place) (rest : List Place) :
    takenNames cfg (place :: rest) = (place.name? cfg).toList ++ takenNames cfg rest := by
  unfold takenNames
  cases hname : place.name? cfg with
  | none => rw [List.filterMap_cons_none hname]; rfl
  | some p => rw [List.filterMap_cons_some hname]; rfl

theorem takenNames_concat (cfg : Config) (places : List Place) (place : Place) :
    takenNames cfg (places ++ [place]) = takenNames cfg places ++ (place.name? cfg).toList := by
  rw [takenNames_append, takenNames_cons]
  exact congrArg _ (List.append_nil _)

theorem firstFailure_append (cfg : Config) (earlier xs ys : List Place) :
    firstFailure cfg earlier (xs ++ ys) =
      (firstFailure cfg earlier xs).or (firstFailure cfg (earlier ++ xs) ys) := by
  induction xs generalizing earlier with
  | nil => rw [List.append_nil]; rfl
  | cons place xs ih =>
    rw [List.cons_append, firstFailure, firstFailure, ih, Option.or_assoc, List.append_assoc]
    rfl

/-- The reported failure is the one of a place whose predecessors have none. -/
theorem firstFailure_eq_some_iff {cfg : Config} {earlier places : List Place} {failure : Failure} :
    firstFailure cfg earlier places = some failure ↔
      ∃ before place after, places = before ++ place :: after ∧
        firstFailure cfg earlier before = none ∧
        place.failure? cfg (earlier ++ before) = some failure := by
  induction places generalizing earlier with
  | nil => simp [firstFailure]
  | cons head rest ih =>
    rw [firstFailure, Option.or_eq_some_iff, ih]
    constructor
    · rintro (hhead | ⟨hhead, before, place, after, rfl, hbefore, hplace⟩)
      · exact ⟨[], head, rest, rfl, rfl, by rwa [List.append_nil]⟩
      · refine ⟨head :: before, place, after, rfl, ?_, ?_⟩
        · rw [firstFailure, hhead, hbefore]
          rfl
        · rwa [List.append_assoc] at hplace
    · rintro ⟨before, place, after, hsplit, hbefore, hplace⟩
      cases before with
      | nil =>
        obtain ⟨rfl, rfl⟩ := List.cons.inj hsplit
        rw [List.append_nil] at hplace
        exact .inl hplace
      | cons first before =>
        obtain ⟨rfl, rfl⟩ := List.cons.inj hsplit
        rw [firstFailure, Option.or_eq_none_iff] at hbefore
        refine .inr ⟨hbefore.1, before, place, after, rfl, hbefore.2, ?_⟩
        rwa [List.append_assoc]

/-- What a place needs whatever stands before it. -/
def Place.Fits : Place → Prop
  | .block index guarded => guarded.group.routes.length ≤ 99 ∧ index ≤ 42949651
  | .entry _ _ route => route.HasBase

theorem blockFailure?_eq_none_iff {index : Nat} {guarded : GuardedGroup} :
    blockFailure? index guarded = none ↔
      guarded.group.routes.length ≤ 99 ∧ index ≤ 42949651 := by
  unfold blockFailure?
  constructor
  · intro h
    by_cases hroutes : 99 < guarded.group.routes.length
    · rw [if_pos hroutes] at h
      cases h
    by_cases hindex : 42949651 < index
    · rw [if_neg hroutes, if_pos hindex] at h
      cases h
    · exact ⟨Nat.le_of_not_lt hroutes, Nat.le_of_not_lt hindex⟩
  · rintro ⟨hroutes, hindex⟩
    rw [if_neg (by omega), if_neg (by omega)]

theorem entryFailure?_eq_none_iff {cfg : Config} {earlier : List Place} {guarded : GuardedGroup}
    {routeIndex : Nat} {route : Route} :
    entryFailure? cfg earlier guarded routeIndex route = none ↔
      route.HasBase ∧ guarded.entryName route ∉ (takenNames cfg earlier).map Prod.fst := by
  unfold entryFailure?
  cases hbase : Naming.tokenBase route.handler with
  | error fault =>
    constructor
    · intro h
      cases h
    · intro h
      rw [h.1.tokenBase_eq] at hbase
      cases hbase
  | ok base =>
    simp only [Option.map_eq_none_iff, List.lookup_eq_none_iff_notMem]
    exact ⟨fun h => ⟨Route.hasBase_iff.2 ⟨base, hbase⟩, h⟩, fun h => h.2⟩

theorem Place.failure?_eq_none_iff {cfg : Config} {earlier : List Place} {place : Place} :
    place.failure? cfg earlier = none ↔
      place.Fits ∧ ∀ p, place.name? cfg = some p → p.1 ∉ (takenNames cfg earlier).map Prod.fst := by
  cases place with
  | block index guarded =>
    refine blockFailure?_eq_none_iff.trans ⟨fun h => ⟨h, fun p hp => ?_⟩, fun h => h.1⟩
    cases hp
  | entry guarded routeIndex route =>
    refine entryFailure?_eq_none_iff.trans ⟨fun h => ⟨h.1, fun p hp => ?_⟩, fun h => ⟨h.1, ?_⟩⟩
    · cases hp
      exact h.2
    · exact h.2 _ rfl

theorem blockFailure?_cases {index : Nat} {guarded : GuardedGroup} {failure : Failure}
    (h : blockFailure? index guarded = some failure) :
    failure = .codeBlockOverflow guarded.subject.ident guarded.group.routes.length 99 ∨
      failure = .codeRangeExhausted guarded.subject.ident index := by
  unfold blockFailure? at h
  split at h
  · cases h
    exact .inl rfl
  · split at h
    · cases h
      exact .inr rfl
    · cases h

/-- A token without a base is reported with its place, a taken name with the route that took it. -/
theorem entryFailure?_cases {cfg : Config} {earlier : List Place} {guarded : GuardedGroup}
    {routeIndex : Nat} {route : Route} {failure : Failure}
    (h : entryFailure? cfg earlier guarded routeIndex route = some failure) :
    (∃ fault, Naming.tokenBase route.handler = .error fault ∧
      failure = .namingResolution (guarded.routeRef cfg routeIndex route) fault) ∨
    ∃ first, route.HasBase ∧ (guarded.entryName route, first) ∈ takenNames cfg earlier ∧
      failure = .duplicateIdentifier (guarded.entryName route) first
        (guarded.routeRef cfg routeIndex route) := by
  unfold entryFailure? at h
  cases hbase : Naming.tokenBase route.handler with
  | error fault =>
    rw [hbase] at h
    cases h
    exact .inl ⟨fault, rfl, rfl⟩
  | ok base =>
    rw [hbase] at h
    obtain ⟨first, hfirst, rfl⟩ := Option.map_eq_some_iff.1 h
    obtain ⟨before, after, htaken, -⟩ := List.lookup_eq_some_iff.1 hfirst
    refine .inr ⟨first, Route.hasBase_iff.2 ⟨base, hbase⟩, ?_, rfl⟩
    rw [htaken]
    exact List.mem_append_right _ List.mem_cons_self

/-- A place that finds its name taken reports it, with the route that took it. -/
theorem Place.names_of_failure? {cfg : Config} {places : List Place} {place : Place}
    {identifier : String} {first second : RouteRef}
    (h : place.failure? cfg places = some (.duplicateIdentifier identifier first second)) :
    place.name? cfg = some (identifier, second) ∧ (identifier, first) ∈ takenNames cfg places := by
  cases place with
  | block index guarded => obtain hfailure | hfailure := blockFailure?_cases h <;> cases hfailure
  | entry guarded routeIndex route =>
    obtain ⟨_, -, hfailure⟩ | ⟨taker, -, htaker, hfailure⟩ := entryFailure?_cases h
    · cases hfailure
    · cases hfailure
      exact ⟨rfl, htaker⟩

/-- There is no failure exactly when each place fits and no name is taken twice. -/
theorem firstFailure_eq_none_iff {cfg : Config} {earlier places : List Place} :
    firstFailure cfg earlier places = none ↔
      (∀ place ∈ places, place.Fits) ∧ ((takenNames cfg places).map Prod.fst).Nodup ∧
        ∀ name ∈ (takenNames cfg places).map Prod.fst,
          name ∉ (takenNames cfg earlier).map Prod.fst := by
  induction places generalizing earlier with
  | nil => simp [firstFailure, takenNames]
  | cons place rest ih =>
    rw [firstFailure, Option.or_eq_none_iff, ih, Place.failure?_eq_none_iff]
    rw [takenNames_cons, takenNames_concat]
    cases place.name? cfg with
    | none => simp [and_assoc]
    | some p =>
      simp only [Option.toList_some, List.singleton_append, List.map_cons, List.map_append,
        List.mem_append, List.mem_cons, List.nodup_cons, Option.some.injEq, forall_eq',
        forall_eq_or_imp, List.map_nil, List.not_mem_nil, or_false, not_or]
      constructor
      · rintro ⟨⟨hfits, hfresh⟩, hrest, hnodup, hnew⟩
        have hp : p.1 ∉ (takenNames cfg rest).map Prod.fst := fun hmem => (hnew p.1 hmem).2 rfl
        exact ⟨⟨hfits, hrest⟩, ⟨hp, hnodup⟩, hfresh, fun name hname => (hnew name hname).1⟩
      · rintro ⟨⟨hfits, hrest⟩, ⟨hp, hnodup⟩, hfresh, hnew⟩
        refine ⟨⟨hfits, hfresh⟩, hrest, hnodup, fun name hname => ⟨hnew name hname, ?_⟩⟩
        rintro rfl
        exact hp hname

end Catalog

end RouteScaffold
