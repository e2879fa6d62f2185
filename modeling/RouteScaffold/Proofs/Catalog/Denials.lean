import Mathlib.Data.List.Nodup
import RouteScaffold.Proofs.Catalog.Pass

/-!
# The denial catalog of a graph

With the pass reduced to places, what is left is about positions in lists: a graph has a catalog
exactly when its groups and tokens allow one, and the codes of the catalog rise from entry to entry
because blocks do not overlap.

The main statement is `denialGroups_spec`.
-/

namespace RouteScaffold

namespace Catalog

variable {cfg : Config}

theorem takenNames_entryPlaces (guarded : GuardedGroup) (start : Nat) (routes : List Route) :
    (takenNames cfg (entryPlaces guarded (numbered start routes))).map Prod.fst =
      routes.map guarded.entryName := by
  induction routes generalizing start with
  | nil => rfl
  | cons route routes ih =>
    have hrest := ih (start + 1)
    rw [numbered_cons, entryPlaces, List.map_cons, takenNames_cons]
    simp only [Place.name?, Option.toList_some, List.singleton_append, List.map_cons]
    exact congrArg _ hrest

theorem takenNames_placesFrom (start : Nat) (groups : List GuardedGroup) :
    (takenNames cfg (placesFrom start groups)).map Prod.fst =
      groups.flatMap fun guarded => guarded.group.routes.map guarded.entryName := by
  induction groups generalizing start with
  | nil => rfl
  | cons guarded groups ih =>
    rw [placesFrom_cons, takenNames_append, List.map_append, ih, List.flatMap_cons, groupPlaces,
      takenNames_cons]
    exact congrArg (· ++ _) (takenNames_entryPlaces guarded 0 guarded.group.routes)

theorem fits_groupPlaces_iff {index : Nat} {guarded : GuardedGroup} :
    (∀ place ∈ groupPlaces index guarded, place.Fits) ↔
      (guarded.group.routes.length ≤ 99 ∧ index ≤ 42949651) ∧
        ∀ route ∈ guarded.group.routes, route.HasBase := by
  rw [groupPlaces, List.forall_mem_cons]
  refine and_congr Iff.rfl ⟨fun h route hroute => ?_, fun h place hplace => ?_⟩
  · rw [← map_snd_numbered 0 guarded.group.routes, List.mem_map] at hroute
    obtain ⟨p, hp, rfl⟩ := hroute
    exact h (.entry guarded p.1 p.2) (List.mem_map_of_mem hp)
  · obtain ⟨p, hp, rfl⟩ := List.mem_map.1 hplace
    exact h p.2 (snd_mem_of_mem_numbered hp)

theorem fits_placesFrom_iff {start : Nat} {groups : List GuardedGroup} :
    (∀ place ∈ placesFrom start groups, place.Fits) ↔
      (∀ guarded ∈ groups, guarded.group.routes.length ≤ 99) ∧
        (groups = [] ∨ start + groups.length ≤ 42949652) ∧
        ∀ guarded ∈ groups, ∀ route ∈ guarded.group.routes, route.HasBase := by
  induction groups generalizing start with
  | nil => simp
  | cons guarded groups ih =>
    rw [placesFrom_cons, List.forall_mem_append, fits_groupPlaces_iff, ih]
    simp only [List.forall_mem_cons, List.length_cons, reduceCtorEq, false_or]
    -- The last block is the one that bounds the count, and an empty rest has no last block.
    have hcount : (start ≤ 42949651 ∧ (groups = [] ∨ start + 1 + groups.length ≤ 42949652)) ↔
        start + (groups.length + 1) ≤ 42949652 := by
      cases groups with
      | nil =>
        simp only [true_or, and_true, List.length_nil]
        omega
      | cons next groups =>
        simp only [reduceCtorEq, false_or]
        omega
    rw [← hcount]
    constructor
    · rintro ⟨⟨⟨hroutes, hstart⟩, hbases⟩, hroutess, hrest, hbasess⟩
      exact ⟨⟨hroutes, hroutess⟩, ⟨hstart, hrest⟩, hbases, hbasess⟩
    · rintro ⟨⟨hroutes, hroutess⟩, ⟨hstart, hrest⟩, hbases, hbasess⟩
      exact ⟨⟨⟨hroutes, hstart⟩, hbases⟩, hroutess, hrest, hbasess⟩

end Catalog

/-- What a graph needs for a catalog. -/
structure RouteGraph.AllowsCatalog (graph : RouteGraph) (cfg : Config) : Prop where
  routes : ∀ guarded ∈ graph.guarded cfg, guarded.group.routes.length ≤ 99
  groups : (graph.guarded cfg).length ≤ 42949652
  bases : ∀ guarded ∈ graph.guarded cfg, ∀ route ∈ guarded.group.routes, route.HasBase
  names : (graph.entryNames cfg).Nodup

theorem RouteGraph.firstFailure_catalogPlaces_eq_none_iff {graph : RouteGraph} {cfg : Config} :
    Catalog.firstFailure cfg [] (graph.catalogPlaces cfg) = none ↔ graph.AllowsCatalog cfg := by
  rw [Catalog.firstFailure_eq_none_iff, catalogPlaces, Catalog.fits_placesFrom_iff,
    Catalog.takenNames_placesFrom, Nat.zero_add]
  constructor
  · rintro ⟨⟨hroutes, hgroups, hbases⟩, hnames, -⟩
    refine ⟨hroutes, ?_, hbases, hnames⟩
    obtain hnil | hgroups := hgroups
    · rw [hnil]
      exact Nat.zero_le _
    · exact hgroups
  · intro h
    exact ⟨⟨h.routes, .inr h.groups, h.bases⟩, h.names, fun _ _ => List.not_mem_nil⟩

/-- The groups of a catalog: each at its position in the graph, with the codes of its block. -/
structure Catalog.Lists (guarded : List GuardedGroup) (groups : List DenialGroup) : Prop where
  length : groups.length = guarded.length
  group : ∀ (k : Nat) (source : GuardedGroup) (group : DenialGroup),
    guarded[k]? = some source → groups[k]? = some group →
      group.subject = source.subject.ident ∧ group.policyKey = source.subject.policyKey ∧
        group.groupIndex = k ∧ group.entries.length = source.group.routes.length
  entry : ∀ (k : Nat) (source : GuardedGroup) (group : DenialGroup),
    guarded[k]? = some source → groups[k]? = some group →
      ∀ (i : Nat) (route : Route) (entry : DenialEntry),
        source.group.routes[i]? = some route → group.entries[i]? = some entry →
          entry.name = source.entryName route ∧ entry.code = 2000 + 100 * k + i + 1
  rising : (groups.flatMap fun group => group.entries.map DenialEntry.code).Pairwise (· < ·)
  distinct : (groups.flatMap fun group => group.entries.map DenialEntry.code).Nodup
  block : ∀ group ∈ groups, ∀ entry ∈ group.entries,
    2000 + 100 * group.groupIndex < entry.code ∧
      entry.code < 2000 + 100 * (group.groupIndex + 1)

/-- A failure is that of the first place that has one, and no code is ever found taken. -/
structure Catalog.FirstAt (cfg : Config) (places : List Place) (failure : Failure) : Prop where
  place : ∃ earlier place later, places = earlier ++ place :: later ∧
    place.failure? cfg earlier = some failure ∧
      ∀ before passed between, earlier = before ++ passed :: between →
        passed.failure? cfg before = none
  fresh : ∀ code first second, failure ≠ .duplicateCode code first second

namespace GuardedGroup

variable (guarded : GuardedGroup) (block : Nat)

theorem length_entries_denialGroupAt :
    (guarded.denialGroupAt block).entries.length = guarded.group.routes.length := by
  simp [denialGroupAt, PlacedGroup.routes_eq_numbered, numbered]

theorem map_name_entries_denialGroupAt :
    (guarded.denialGroupAt block).entries.map DenialEntry.name =
      guarded.group.routes.map guarded.entryName := by
  rw [denialGroupAt, List.map_map, ← map_snd_numbered 0 guarded.group.routes, List.map_map]
  rfl

theorem getElem?_entries_denialGroupAt (i : Nat) :
    (guarded.denialGroupAt block).entries[i]? =
      guarded.group.routes[i]?.map (guarded.entryAt block i) := by
  rw [denialGroupAt, PlacedGroup.routes_eq_numbered, List.getElem?_map, getElem?_numbered, Option.map_map]
  rfl

theorem pairwise_codes_denialGroupAt :
    ((guarded.denialGroupAt block).entries.map DenialEntry.code).Pairwise (· < ·) := by
  rw [denialGroupAt, List.map_map, List.pairwise_map]
  refine (pairwise_numbered guarded.group.routes).imp fun {p q} hpq => ?_
  change 2000 + 100 * block + p.1 + 1 < 2000 + 100 * block + q.1 + 1
  omega

/-- The codes of a group that is not too large stay in its block. -/
theorem code_mem_block {guarded : GuardedGroup} {block : Nat} {entry : DenialEntry}
    (hroutes : guarded.group.routes.length ≤ 99)
    (hentry : entry ∈ (guarded.denialGroupAt block).entries) :
    2000 + 100 * block < entry.code ∧ entry.code < 2000 + 100 * (block + 1) := by
  obtain ⟨p, hp, rfl⟩ := List.mem_map.1 hentry
  have hindex : p.1 < guarded.group.routes.length := fst_lt_of_mem_numbered hp
  change 2000 + 100 * block < 2000 + 100 * block + p.1 + 1 ∧
    2000 + 100 * block + p.1 + 1 < 2000 + 100 * (block + 1)
  omega

end GuardedGroup

namespace RouteGraph

variable {graph : RouteGraph} {cfg : Config}

theorem getElem?_catalogAt (k : Nat) :
    (graph.catalogAt cfg)[k]? =
      (graph.guarded cfg)[k]?.map fun guarded => guarded.denialGroupAt k := by
  simp [catalogAt, List.getElem?_zipIdx, Function.comp_def]

theorem flatMap_names_catalogAt :
    ((graph.catalogAt cfg).flatMap fun group => group.entries.map DenialEntry.name) =
      graph.entryNames cfg := by
  rw [catalogAt, List.flatMap_map]
  simp only [GuardedGroup.map_name_entries_denialGroupAt]
  conv_rhs => rw [entryNames, ← List.zipIdx_map_fst 0 (graph.guarded cfg), List.flatMap_map]

theorem pairwise_codes_catalogAt (h : graph.AllowsCatalog cfg) :
    ((graph.catalogAt cfg).flatMap fun group => group.entries.map DenialEntry.code).Pairwise
      (· < ·) := by
  have hblocks : (graph.guarded cfg).zipIdx.Pairwise fun p q => p.2 < q.2 := by
    rw [← List.pairwise_map (f := Prod.snd), List.zipIdx_map_snd]
    exact List.pairwise_lt_range'
  rw [catalogAt, List.flatMap_map, List.pairwise_flatMap]
  constructor
  · intro p _
    exact p.1.pairwise_codes_denialGroupAt p.2
  · refine hblocks.imp_of_mem fun {p q} hp hq hpq => ?_
    intro x hx y hy
    obtain ⟨first, hfirst, rfl⟩ := List.mem_map.1 hx
    obtain ⟨second, hsecond, rfl⟩ := List.mem_map.1 hy
    have hlast := (GuardedGroup.code_mem_block (h.routes _ (List.fst_mem_of_mem_zipIdx hp)) hfirst).2
    have hnext := (GuardedGroup.code_mem_block (h.routes _ (List.fst_mem_of_mem_zipIdx hq)) hsecond).1
    omega

theorem lists_catalogAt (h : graph.AllowsCatalog cfg) :
    Catalog.Lists (graph.guarded cfg) (graph.catalogAt cfg) where
  length := by rw [catalogAt, List.length_map, List.length_zipIdx]
  group := by
    intro k source group hsource hgroup
    rw [getElem?_catalogAt, hsource] at hgroup
    cases hgroup
    exact ⟨rfl, rfl, rfl, source.length_entries_denialGroupAt k⟩
  entry := by
    intro k source group hsource hgroup i route entry hroute hentry
    rw [getElem?_catalogAt, hsource] at hgroup
    cases hgroup
    rw [source.getElem?_entries_denialGroupAt k, hroute] at hentry
    cases hentry
    exact ⟨rfl, rfl⟩
  rising := pairwise_codes_catalogAt h
  distinct := (pairwise_codes_catalogAt h).imp Nat.ne_of_lt
  block := by
    intro group hgroup entry hentry
    obtain ⟨p, hp, rfl⟩ := List.mem_map.1 hgroup
    exact GuardedGroup.code_mem_block (h.routes _ (List.fst_mem_of_mem_zipIdx hp)) hentry

end RouteGraph

/-- The failures of a place; that a code is taken is none of them. -/
theorem Catalog.Place.failure?_cases {cfg : Config} {earlier : List Place} {place : Place}
    {failure : Failure} (h : place.failure? cfg earlier = some failure) :
    (∃ subject routes, failure = .codeBlockOverflow subject routes 99) ∨
      (∃ subject index, failure = .codeRangeExhausted subject index) ∨
        (∃ ref fault, failure = .namingResolution ref fault) ∨
          ∃ name first second, failure = .duplicateIdentifier name first second := by
  cases place with
  | block index guarded =>
    obtain rfl | rfl := blockFailure?_cases h
    · exact .inl ⟨_, _, rfl⟩
    · exact .inr (.inl ⟨_, _, rfl⟩)
  | entry guarded routeIndex route =>
    obtain ⟨_, -, rfl⟩ | ⟨_, -, -, rfl⟩ := entryFailure?_cases h
    · exact .inr (.inr (.inl ⟨_, _, rfl⟩))
    · exact .inr (.inr (.inr ⟨_, _, _, rfl⟩))

theorem Catalog.firstAt_of_firstFailure {cfg : Config} {places : List Place} {failure : Failure}
    (h : firstFailure cfg [] places = some failure) : FirstAt cfg places failure := by
  obtain ⟨earlier, place, later, hplaces, hearlier, hplace⟩ := firstFailure_eq_some_iff.1 h
  rw [List.nil_append] at hplace
  refine ⟨⟨earlier, place, later, hplaces, hplace, ?_⟩, ?_⟩
  · rintro before passed between rfl
    rw [firstFailure_append, List.nil_append, Option.or_eq_none_iff, firstFailure,
      Option.or_eq_none_iff] at hearlier
    exact hearlier.2.1
  · rintro code first second rfl
    obtain ⟨_, _, h⟩ | ⟨_, _, h⟩ | ⟨_, _, h⟩ | ⟨_, _, _, h⟩ := place.failure?_cases hplace
    all_goals cases h

theorem RouteGraph.denialGroups_eq_ok_iff {graph : RouteGraph} {cfg : Config}
    {groups : List DenialGroup} :
    graph.denialGroups cfg = .ok groups ↔
      graph.AllowsCatalog cfg ∧ groups = graph.catalogAt cfg := by
  rw [denialGroups_eq, ← firstFailure_catalogPlaces_eq_none_iff]
  cases Catalog.firstFailure cfg [] (graph.catalogPlaces cfg) with
  | none => simp [eq_comm]
  | some failure => simp

/-- A graph has a catalog exactly when it allows one. The catalog then lists the guarded groups at
their positions, and without one the first place at fault is reported. -/
theorem RouteGraph.denialGroups_spec (graph : RouteGraph) (cfg : Config) :
    ((∃ groups, graph.denialGroups cfg = .ok groups) ↔ graph.AllowsCatalog cfg) ∧
      match graph.denialGroups cfg with
      | .ok groups => Catalog.Lists (graph.guarded cfg) groups
      | .error failure => Catalog.FirstAt cfg (graph.catalogPlaces cfg) failure := by
  constructor
  · simp only [denialGroups_eq_ok_iff, exists_and_left, exists_eq, and_true]
  · rw [denialGroups_eq]
    cases hfailure : Catalog.firstFailure cfg [] (graph.catalogPlaces cfg) with
    | none => exact lists_catalogAt (firstFailure_catalogPlaces_eq_none_iff.1 hfailure)
    | some failure => exact Catalog.firstAt_of_firstFailure hfailure

end RouteScaffold
