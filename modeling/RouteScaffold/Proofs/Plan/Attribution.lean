import RouteScaffold.Proofs.Authorization.Subsumption
import RouteScaffold.Proofs.Plan.Paths

/-!
# Who is blamed

A failed plan names a route, two routes or two artifacts. The walks find them in different ways: tokens on
the way to names, names in a record of what was taken, paths in a list that is made beside the artifacts.
Here the culprits are read off the graph alone. `Site` is a route with its place, and the first site without
a base, the first repeated name and the first repeated path are what a failure has to name.

The main statement is `blames_of_plan`.
-/

namespace RouteScaffold

/-! ### First repetitions -/

/-- `second` is the first item that repeats the key of an item before it, which is `first`: the items before
`second` have distinct keys. -/
def FirstRepeat {α κ : Type} (key : α → κ) (items : List α) (first second : α) : Prop :=
  ∃ before after, items = before ++ second :: after ∧ (before.map key).Nodup ∧
    first ∈ before ∧ key first = key second

/-! ### The sites of a graph -/

/-- A route with its place in a graph. -/
structure Site where
  placed : PlacedGroup
  routeIndex : Nat
  route : Route

/-- How messages name the site. -/
def Site.ref (site : Site) (cfg : Config) : RouteRef :=
  site.placed.routeRef cfg site.routeIndex site.route

def PlacedGroup.sites (placed : PlacedGroup) : List Site :=
  placed.routes.map fun p => ⟨placed, p.1, p.2⟩

/-- The names of the denials of a guarded group that can be derived, with their routes. -/
def GuardedGroup.denialNames (guarded : GuardedGroup) (cfg : Config) : List (String × RouteRef) :=
  guarded.routes.filterMap fun p =>
    (Naming.tokenBase p.2.handler).toOption.map fun base =>
      (denialName guarded.subject.ident (Naming.actionName base), guarded.routeRef cfg p.1 p.2)

namespace RouteGraph

/-- All routes of the graph in graph order. -/
def sites (graph : RouteGraph) : List Site :=
  graph.placed.flatMap PlacedGroup.sites

/-- The routes of the authorization-bearing groups in graph order. -/
def guardedSites (graph : RouteGraph) (cfg : Config) : List Site :=
  (graph.guarded cfg).flatMap (·.sites)

def denialNames (graph : RouteGraph) (cfg : Config) : List (String × RouteRef) :=
  (graph.guarded cfg).flatMap (·.denialNames cfg)

end RouteGraph

/-- The first site whose token leaves no name is at `location`. -/
def FirstUnusable (cfg : Config) (sites : List Site) (location : RouteRef) (fault : TokenFault) : Prop :=
  ∃ before site after, sites = before ++ site :: after ∧ (∀ earlier ∈ before, earlier.route.HasBase) ∧
    Naming.tokenBase site.route.handler = .error fault ∧ location = site.ref cfg

/-- What a failure names is what is at fault in the graph. With authorization the tokens of guarded groups
are looked at before all others. -/
def RouteGraph.Blames (graph : RouteGraph) (cfg : Config) : Failure → Prop
  | .namingResolution location fault =>
    cfg.auth = true ∧ FirstUnusable cfg (graph.guardedSites cfg) location fault ∨
      (cfg.auth = true → ∀ site ∈ graph.guardedSites cfg, site.route.HasBase) ∧
        FirstUnusable cfg graph.sites location fault
  | .duplicateIdentifier identifier first second =>
    cfg.auth = true ∧
      FirstRepeat Prod.fst (graph.denialNames cfg) (identifier, first) (identifier, second)
  | .artifactCollision path first second =>
    ∃ naming slot kind, cfg.naming = .ok naming ∧
      FirstRepeat (fun delivery => delivery.1.2.components) (graph.deliveries cfg naming)
        (slot, first) ((kind, path), second)
  | _ => True

/-! ### In the catalog -/

namespace Catalog

theorem filterMap_placesFrom {α : Type} {f : Place → Option α}
    (hblock : ∀ index guarded, f (.block index guarded) = none) (start : Nat)
    (groups : List GuardedGroup) :
    (placesFrom start groups).filterMap f =
      groups.flatMap fun guarded => guarded.routes.filterMap fun p => f (.entry guarded p.1 p.2) := by
  induction groups generalizing start with
  | nil => rfl
  | cons guarded groups ih =>
    rw [placesFrom_cons, List.filterMap_append, ih, List.flatMap_cons, groupPlaces,
      List.filterMap_cons_none (hblock start guarded), entryPlaces, List.filterMap_map]
    rfl

namespace Place

def site? : Place → Option Site
  | .block .. => none
  | .entry guarded routeIndex route => some ⟨guarded.toPlacedGroup, routeIndex, route⟩

/-- The name of a place, if it can be derived. -/
def denial? (cfg : Config) : Place → Option (String × RouteRef)
  | .block .. => none
  | .entry guarded routeIndex route =>
    (Naming.tokenBase route.handler).toOption.map fun base =>
      (denialName guarded.subject.ident (Naming.actionName base), guarded.routeRef cfg routeIndex route)

theorem denial?_eq_name? {cfg : Config} {place : Place} (h : place.Fits) :
    place.denial? cfg = place.name? cfg := by
  cases place with
  | block index guarded => rfl
  | entry guarded routeIndex route =>
    have hbase : Naming.tokenBase route.handler = .ok route.base := Route.HasBase.tokenBase_eq h
    rw [denial?, hbase]
    rfl

end Place

end Catalog

namespace RouteGraph

variable {graph : RouteGraph} {cfg : Config}

theorem filterMap_site?_catalogPlaces :
    (graph.catalogPlaces cfg).filterMap Catalog.Place.site? = graph.guardedSites cfg := by
  rw [catalogPlaces, Catalog.filterMap_placesFrom fun _ _ => rfl]
  simp only [Catalog.Place.site?, List.filterMap_eq_map']
  rfl

theorem filterMap_denial?_catalogPlaces :
    (graph.catalogPlaces cfg).filterMap (Catalog.Place.denial? cfg) = graph.denialNames cfg :=
  Catalog.filterMap_placesFrom (fun _ _ => rfl) 0 (graph.guarded cfg)

section Places

variable {before after : List Catalog.Place} {guarded : GuardedGroup} {routeIndex : Nat} {route : Route}

theorem firstUnusable_of_catalogPlaces
    (hplaces : graph.catalogPlaces cfg = before ++ .entry guarded routeIndex route :: after)
    (hfits : ∀ place ∈ before, place.Fits) {fault : TokenFault}
    (hbase : Naming.tokenBase route.handler = .error fault) :
    FirstUnusable cfg (graph.guardedSites cfg) (guarded.routeRef cfg routeIndex route) fault := by
  have hsite : (Catalog.Place.entry guarded routeIndex route).site? =
      some ⟨guarded.toPlacedGroup, routeIndex, route⟩ := rfl
  refine ⟨before.filterMap Catalog.Place.site?, ⟨guarded.toPlacedGroup, routeIndex, route⟩,
    after.filterMap Catalog.Place.site?, ?_, fun site hsite => ?_, hbase, rfl⟩
  · rw [← filterMap_site?_catalogPlaces, hplaces, List.filterMap_append, List.filterMap_cons_some hsite]
  · obtain ⟨place, hplace, hsite⟩ := List.mem_filterMap.1 hsite
    cases place with
    | block index guarded => cases hsite
    | entry guarded routeIndex route =>
      cases hsite
      exact hfits _ hplace

theorem firstRepeat_of_catalogPlaces
    (hplaces : graph.catalogPlaces cfg = before ++ .entry guarded routeIndex route :: after)
    (hfits : ∀ place ∈ before, place.Fits)
    (hnames : ((Catalog.takenNames cfg before).map Prod.fst).Nodup) (hbase : route.HasBase) {first : RouteRef}
    (hfirst : (guarded.entryName route, first) ∈ Catalog.takenNames cfg before) :
    FirstRepeat Prod.fst (graph.denialNames cfg) (guarded.entryName route, first)
      (guarded.entryName route, guarded.routeRef cfg routeIndex route) := by
  have hbefore : before.filterMap (Catalog.Place.denial? cfg) = Catalog.takenNames cfg before :=
    List.filterMap_congr fun place hplace => Catalog.Place.denial?_eq_name? (hfits place hplace)
  have hentry : (Catalog.Place.entry guarded routeIndex route).denial? cfg =
      some (guarded.entryName route, guarded.routeRef cfg routeIndex route) :=
    Catalog.Place.denial?_eq_name? hbase
  refine ⟨Catalog.takenNames cfg before, after.filterMap (Catalog.Place.denial? cfg), ?_, hnames, hfirst,
    rfl⟩
  rw [← filterMap_denial?_catalogPlaces, hplaces, List.filterMap_append, hbefore,
    List.filterMap_cons_some hentry]

end Places

/-- The pass that makes the catalog blames the first place at fault. -/
theorem blames_of_denialGroups (hauth : cfg.auth = true) {failure : Failure}
    (h : graph.denialGroups cfg = .error failure) : graph.Blames cfg failure := by
  obtain ⟨before, place, after, hplaces, hbefore, hplace⟩ :=
    Catalog.firstFailure_eq_some_iff.1 (firstFailure_of_denialGroups h)
  rw [List.nil_append] at hplace
  obtain ⟨hfits, hnames, -⟩ := Catalog.firstFailure_eq_none_iff.1 hbefore
  cases place with
  | block index guarded =>
    obtain rfl | rfl := Catalog.blockFailure?_cases hplace <;> trivial
  | entry guarded routeIndex route =>
    obtain ⟨fault, hbase, rfl⟩ | ⟨first, hbase, hfirst, rfl⟩ := Catalog.entryFailure?_cases hplace
    · exact .inl ⟨hauth, firstUnusable_of_catalogPlaces hplaces hfits hbase⟩
    · exact ⟨hauth, firstRepeat_of_catalogPlaces hplaces hfits hnames hbase hfirst⟩

theorem blames_of_ofRendering {failure : Failure} (h : failure.OfRendering) :
    graph.Blames cfg failure := by
  obtain ⟨_, _, _, rfl⟩ := h
  trivial

end RouteGraph

/-! ### In the groups -/

section Groups

variable {cfg : Config} {naming : Naming.NamingFormat} {renderer : Renderer} {failure : Failure}

namespace PlacedGroup

variable {placed : PlacedGroup}

theorem emitHandler_error_cases {routeIndex : Nat} {route : Route}
    (h : placed.emitHandler cfg naming renderer routeIndex route = .error failure) :
    (∃ fault, Naming.tokenBase route.handler = .error fault ∧
      failure = .namingResolution (placed.routeRef cfg routeIndex route) fault) ∨
        failure.OfRendering := by
  obtain hplan | ⟨plan, -, hrender⟩ := Except.bind_eq_error_iff.1 h
  · obtain hbase | ⟨_, -, hok⟩ := Except.bind_eq_error_iff.1 hplan
    · unfold baseName at hbase
      split at hbase
      · cases hbase
      case h_2 fault hfault =>
        cases hbase
        exact .inl ⟨fault, hfault, rfl⟩
    · cases hok
  · exact .inr (Renderer.failsOfRendering_render _ _ _ _ failure hrender)

/-- The handlers of a group fail at its first unusable token, if not in a template. -/
theorem planHandlers_error_cases (h : placed.planHandlers cfg naming renderer = .error failure) :
    (∃ location fault, FirstUnusable cfg placed.sites location fault ∧
      failure = .namingResolution location fault) ∨ failure.OfRendering := by
  obtain ⟨before, p, after, hroutes, hbefore, hp⟩ := Except.mapM_eq_error_iff.1 h
  have hemit : placed.emitHandler cfg naming renderer p.1 p.2 = .error failure := by
    obtain hemit | ⟨_, -, hok⟩ := Except.bind_eq_error_iff.1 hp
    · exact hemit
    · cases hok
  obtain ⟨fault, hfault, rfl⟩ | hrendering := emitHandler_error_cases hemit
  · refine .inl ⟨_, fault, ⟨before.map fun p => ⟨placed, p.1, p.2⟩, ⟨placed, p.1, p.2⟩,
      after.map fun p => ⟨placed, p.1, p.2⟩, ?_, ?_, hfault, rfl⟩, rfl⟩
    · rw [sites, hroutes, List.map_append, List.map_cons]
    · rw [List.forall_mem_map]
      intro q hq
      obtain ⟨entry, hentry⟩ := hbefore q hq
      obtain ⟨artifact, hartifact, -⟩ := Except.bind_eq_ok_iff.1 hentry
      obtain ⟨plan, hplan, -⟩ := Except.bind_eq_ok_iff.1 hartifact
      exact (handlerPlan_eq_ok_iff.1 hplan).1
  · exact .inr hrendering

theorem forall_mem_sites {P : Route → Prop} :
    (∀ site ∈ placed.sites, P site.route) ↔ ∀ route ∈ placed.group.routes, P route := by
  conv_rhs => rw [← map_snd_numbered 0 placed.group.routes]
  rw [sites, routes_eq_numbered, List.forall_mem_map, List.forall_mem_map]

end PlacedGroup

theorem FirstUnusable.append {sites before after : List Site} {location : RouteRef} {fault : TokenFault}
    (h : FirstUnusable cfg sites location fault) (hbefore : ∀ site ∈ before, site.route.HasBase) :
    FirstUnusable cfg (before ++ (sites ++ after)) location fault := by
  obtain ⟨earlier, site, later, rfl, hearlier, hsite⟩ := h
  refine ⟨before ++ earlier, site, later ++ after, ?_, ?_, hsite⟩
  · simp
  · exact List.forall_mem_append.2 ⟨hbefore, hearlier⟩

namespace RouteGraph

variable {graph : RouteGraph}

theorem forall_mem_guardedSites (h : graph.AllowsCatalog cfg) :
    ∀ site ∈ graph.guardedSites cfg, site.route.HasBase := by
  intro site hsite
  obtain ⟨guarded, hguarded, hsite⟩ := List.mem_flatMap.1 hsite
  exact PlacedGroup.forall_mem_sites.2 (h.bases guarded hguarded) site hsite

theorem blames_of_plan_placed (hallows : cfg.auth = true → graph.AllowsCatalog cfg)
    {before after : List PlacedGroup} {placed : PlacedGroup}
    (hplaced : graph.placed = before ++ placed :: after)
    (hbefore : ∀ earlier ∈ before, ∃ owned, earlier.plan cfg naming renderer = .ok owned)
    (h : placed.plan cfg naming renderer = .error failure) : graph.Blames cfg failure := by
  have hmem : placed ∈ graph.placed := hplaced ▸ List.mem_append_right _ List.mem_cons_self
  obtain hauth | ⟨_, -, hrest⟩ := Except.bind_eq_error_iff.1 h
  · exact blames_of_ofRendering (failsWith_planAuth hallows hmem failure hauth)
  obtain hhandlers | ⟨_, -, hok⟩ := Except.bind_eq_error_iff.1 hrest
  · obtain ⟨location, fault, hfirst, rfl⟩ | hrendering := PlacedGroup.planHandlers_error_cases hhandlers
    · refine .inr ⟨fun hauth => forall_mem_guardedSites (hallows hauth), ?_⟩
      rw [sites, hplaced, List.flatMap_append, List.flatMap_cons]
      refine hfirst.append fun site hsite => ?_
      obtain ⟨earlier, hearlier, hsite⟩ := List.mem_flatMap.1 hsite
      obtain ⟨owned, howned⟩ := hbefore earlier hearlier
      exact PlacedGroup.forall_mem_sites.2 (PlacedGroup.hasBase_of_plan howned) site hsite
    · exact blames_of_ofRendering hrendering
  · cases hok

theorem blames_of_planOwned (h : graph.planOwned cfg naming renderer = .error failure) :
    graph.Blames cfg failure := by
  obtain hshared | ⟨shared, hshared, hrest⟩ := Except.bind_eq_error_iff.1 h
  · obtain hrendering | ⟨hauth, hgroups⟩ := failsWith_planShared failure hshared
    · exact blames_of_ofRendering hrendering
    · exact blames_of_denialGroups hauth hgroups
  obtain hgroups | ⟨_, -, hok⟩ := Except.bind_eq_error_iff.1 hrest
  · obtain ⟨before, placed, after, hplaced, hbefore, hfails⟩ := Except.mapM_eq_error_iff.1 hgroups
    exact blames_of_plan_placed (allowsCatalog_of_planShared hshared) hplaced hbefore hfails
  · cases hok

end RouteGraph

end Groups

/-! ### Among the paths -/

/-- The comparison of paths keeps a record of the places before, the latest first. -/
theorem firstRepeat_of_collision? {before rest : List OwnedArtifact} {failure : Failure}
    (hbefore : (before.map fun entry => entry.path.components).Nodup)
    (h : collision? (before.reverse.map fun entry => (entry.path.components, entry.owner)) rest =
      some failure) :
    ∃ first second, failure = .artifactCollision second.path first.owner second.owner ∧
      FirstRepeat (fun entry => entry.path.components) (before ++ rest) first second := by
  induction rest generalizing before with
  | nil => cases h
  | cons entry rest ih =>
    unfold collision? at h
    simp only at h
    split at h
    case h_1 owner howner =>
      cases h
      obtain ⟨later, sooner, hseen, -⟩ := List.lookup_eq_some_iff.1 howner
      have hmem : (entry.artifact.path.components, owner) ∈
          before.reverse.map fun entry => (entry.path.components, entry.owner) := by
        rw [hseen]
        exact List.mem_append_right _ List.mem_cons_self
      obtain ⟨first, hfirst, heq⟩ := List.mem_map.1 hmem
      obtain ⟨hplace, rfl⟩ := Prod.mk.inj heq
      exact ⟨first, entry, rfl, before, rest, rfl, hbefore, List.mem_reverse.1 hfirst, hplace⟩
    case h_2 hnone =>
      have hfresh : entry.path.components ∉ before.map fun entry => entry.path.components := by
        rw [List.lookup_eq_none_iff_notMem, List.map_map, List.map_reverse, List.mem_reverse] at hnone
        exact hnone
      have hbefore' : ((before ++ [entry]).map fun entry => entry.path.components).Nodup := by
        rw [List.map_append, List.nodup_append_comm]
        exact List.nodup_cons.2 ⟨hfresh, hbefore⟩
      have hrecord : collision? ((before ++ [entry]).reverse.map
          fun entry => (entry.path.components, entry.owner)) rest = some failure := by
        rwa [List.reverse_append]
      obtain ⟨first, second, hfailure, hrepeat⟩ := ih hbefore' hrecord
      rw [List.append_assoc] at hrepeat
      exact ⟨first, second, hfailure, hrepeat⟩

theorem FirstRepeat.map {α β κ : Type} {f : α → β} {key : β → κ} {items : List α} {first second : α}
    (h : FirstRepeat (key ∘ f) items first second) :
    FirstRepeat key (items.map f) (f first) (f second) := by
  obtain ⟨before, after, rfl, hdistinct, hfirst, hkey⟩ := h
  refine ⟨before.map f, after.map f, List.map_append, ?_, List.mem_map_of_mem hfirst, hkey⟩
  rwa [List.map_map]

/-- A failed plan names the routes and artifacts that are at fault: the first token without a name, the
first repeated name or the first repeated path, with what came before it. -/
theorem RouteGraph.blames_of_plan {graph : RouteGraph} {cfg : Config} {registry : TemplateRegistry}
    {engine : Template.Engine} {failure : Failure}
    (hplan : graph.plan cfg registry engine = .error failure) : graph.Blames cfg failure := by
  obtain hnaming | ⟨naming, hnaming, hcompile | ⟨renderer, -, howned | ⟨owned, howned, hcollision⟩⟩⟩ :=
    plan_eq_error_iff.1 hplan
  · obtain ⟨_, _, rfl⟩ := cfg.failsWith_naming failure hnaming
    trivial
  · obtain ⟨_, _, rfl⟩ := registry.failsWith_compile engine failure hcompile
    trivial
  · exact blames_of_planOwned howned
  · have hnone : (([] : List OwnedArtifact).map fun entry => entry.path.components).Nodup := List.nodup_nil
    obtain ⟨first, second, rfl, hrepeat⟩ := firstRepeat_of_collision? hnone hcollision
    refine ⟨naming, first.slot, second.artifact.kind, hnaming, ?_⟩
    rw [← deliveries_of_planOwned howned]
    exact FirstRepeat.map (f := OwnedArtifact.delivery) hrepeat

/-- Two groups with a token that leaves no name; the second one guards users. -/
def namelessGraph : RouteGraph where
  groups :=
    [{ routes := [{ handler := "handler" }] },
     { annotations := .ofList [("group", "users")]
       routes := [{ handler := "create" }, { handler := " Handler " }] }]

/-- Two routes with one base, and so with one file. -/
def sameFileGraph : RouteGraph where
  groups := [{ name := some "pings", routes := [{ handler := "ping" }, { handler := "pingHandler" }] }]

theorem namelessGraph_blames :
    ∃ nameless twin sameFile, namelessGraph.plan {} plainTemplates = .error nameless ∧
      nameless = .namingResolution ⟨"users", 1, " Handler "⟩ (.nothingLeft "Handler") ∧
        namelessGraph.Blames {} nameless ∧
      twinGraph.plan {} plainTemplates = .error twin ∧
        twin = .duplicateIdentifier "ErrUserCreateDenied" ⟨"users", 0, "create"⟩
          ⟨"users", 1, "createHandler"⟩ ∧
        twinGraph.Blames {} twin ∧
      sameFileGraph.plan {} plainTemplates = .error sameFile ∧
        sameFile = .artifactCollision ⟨"internal/handler/pinghandler.go"⟩
          (.route ⟨"pings", 0, "ping"⟩) (.route ⟨"pings", 1, "pingHandler"⟩) ∧
        sameFileGraph.Blames {} sameFile := by
  have hnameless : namelessGraph.plan {} plainTemplates =
      .error (.namingResolution ⟨"users", 1, " Handler "⟩ (.nothingLeft "Handler")) := by
    decide +kernel
  have htwin : twinGraph.plan {} plainTemplates = .error (.duplicateIdentifier "ErrUserCreateDenied"
      ⟨"users", 0, "create"⟩ ⟨"users", 1, "createHandler"⟩) := by
    decide +kernel
  have hsameFile : sameFileGraph.plan {} plainTemplates =
      .error (.artifactCollision ⟨"internal/handler/pinghandler.go"⟩ (.route ⟨"pings", 0, "ping"⟩)
        (.route ⟨"pings", 1, "pingHandler"⟩)) := by
    decide +kernel
  exact ⟨_, _, _, hnameless, rfl, RouteGraph.blames_of_plan hnameless, htwin, rfl,
    RouteGraph.blames_of_plan htwin, hsameFile, rfl, RouteGraph.blames_of_plan hsameFile⟩

end RouteScaffold
