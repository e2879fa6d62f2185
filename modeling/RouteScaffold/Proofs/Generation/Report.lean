import RouteScaffold.Generation.Run
import RouteScaffold.Proofs.Plan.Paths

/-!
# Reports

The report of a run takes in one artifact after the other, and so it counts them by kind. What it counts
is what the graph asks for: a handler for every route and, with authorization, an interface for every
guarded group, the catalog and the table.
-/

namespace RouteScaffold

namespace Report

/-- The report of a run that wrote the given artifacts, counted all at once. -/
def ofArtifacts (artifacts : List Artifact) : Report where
  handlers := artifacts.countP (·.kind == .handler)
  authInterfaces := artifacts.countP (·.kind == .auth)
  errorCatalog := artifacts.any (·.kind == .authError)
  policyTable := artifacts.any (·.kind == .policy)
  paths := artifacts.map (·.path)

theorem foldl_record_eq (report : Report) (artifacts : List Artifact) :
    artifacts.foldl record report =
      { handlers := report.handlers + (ofArtifacts artifacts).handlers
        authInterfaces := report.authInterfaces + (ofArtifacts artifacts).authInterfaces
        errorCatalog := report.errorCatalog || (ofArtifacts artifacts).errorCatalog
        policyTable := report.policyTable || (ofArtifacts artifacts).policyTable
        paths := report.paths ++ (ofArtifacts artifacts).paths } := by
  induction artifacts generalizing report with
  | nil => simp [ofArtifacts]
  | cons artifact rest ih =>
    rw [List.foldl_cons, ih]
    cases hkind : artifact.kind <;>
      simp [ofArtifacts, record, hkind, beq_eq_decide, Nat.add_assoc, Nat.add_comm]

/-- Recording artifact after artifact comes to counting them all. -/
theorem foldl_record (artifacts : List Artifact) :
    artifacts.foldl record {} = ofArtifacts artifacts := by
  simp [foldl_record_eq]

end Report

/-- A report that gives the written paths in order and counts what the graph asks for. -/
structure Report.Describes (report : Report) (graph : RouteGraph) (cfg : Config)
    (artifacts : List Artifact) : Prop where
  paths : report.paths = artifacts.map Artifact.path
  handlers : report.handlers = graph.routeCount
  authInterfaces : report.authInterfaces = if cfg.auth then (graph.guarded cfg).length else 0
  errorCatalog : report.errorCatalog = cfg.auth
  policyTable : report.policyTable = cfg.auth

variable {cfg : Config} {naming : Naming.NamingFormat}

/-- The catalog and the policy table are among what the graph as a whole gets, or nowhere. -/
theorem PlacedGroup.kind_of_mem_slots {placed : PlacedGroup} {slot : ArtifactKind × Path}
    (h : slot ∈ placed.slots cfg naming) : slot.1 = .auth ∨ slot.1 = .handler := by
  rcases List.mem_append.1 h with h | h
  · obtain ⟨path, -, rfl⟩ := List.mem_map.1 h
    exact .inl rfl
  · obtain ⟨path, -, rfl⟩ := List.mem_map.1 h
    exact .inr rfl

namespace RouteGraph

variable {graph : RouteGraph}

theorem routeCount_eq_length :
    graph.routeCount = (graph.groups.flatMap fun group => group.routes).length := by
  have hfrom : ∀ (groups : List Group) (start : Nat),
      groups.foldl (fun count group => count + group.routes.length) start =
        start + (groups.flatMap fun group => group.routes).length := by
    intro groups
    induction groups with
    | nil => simp
    | cons group groups ih =>
      intro start
      rw [List.foldl_cons, ih, List.flatMap_cons, List.length_append, Nat.add_assoc]
  rw [routeCount, hfrom, Nat.zero_add]

theorem length_handlerPaths : (graph.handlerPaths cfg naming).length = graph.routeCount := by
  rw [handlerPaths, routeCount_eq_length, ← map_group_placed, List.flatMap_map,
    List.length_flatMap, List.length_flatMap]
  simp only [PlacedGroup.handlerPaths, List.length_map]

theorem length_authPaths :
    (graph.authPaths cfg).length = if cfg.auth then (graph.guarded cfg).length else 0 := by
  by_cases hauth : cfg.auth <;> simp [authPaths, hauth]

/-- What belongs to the graph as a whole is there exactly with authorization. -/
theorem any_slots {kind : ArtifactKind} (h : kind = .authError ∨ kind = .policy) :
    (graph.slots cfg naming).any (·.1 == kind) = cfg.auth := by
  have hgroups : (graph.placed.flatMap (·.slots cfg naming)).any (·.1 == kind) = false := by
    rw [List.any_eq_false]
    intro slot hslot hkind
    obtain ⟨placed, -, hmem⟩ := List.mem_flatMap.1 hslot
    rw [beq_iff_eq] at hkind
    rcases PlacedGroup.kind_of_mem_slots hmem with hslot | hslot <;>
      rcases h with rfl | rfl <;> rw [hslot] at hkind <;> cases hkind
  rw [slots, List.any_append, hgroups, Bool.or_false]
  unfold sharedSlots
  rcases h with rfl | rfl <;> cases cfg.auth <;> rfl

theorem describes_ofArtifacts {registry : TemplateRegistry} {engine : Template.Engine}
    {artifacts : List Artifact} (h : graph.plan cfg registry engine = .ok artifacts) :
    (Report.ofArtifacts artifacts).Describes graph cfg artifacts := by
  obtain ⟨naming, -, hslots⟩ := slots_of_plan h
  have hcount : ∀ kind, artifacts.countP (·.kind == kind) =
      ((graph.slots cfg naming).filter (·.1 == kind)).length := by
    intro kind
    rw [← hslots, ← List.countP_eq_length_filter, List.countP_map]
    rfl
  have hany : ∀ kind, artifacts.any (·.kind == kind) =
      (graph.slots cfg naming).any (·.1 == kind) := by
    intro kind
    rw [← hslots, List.any_map]
    rfl
  have hhandlers : artifacts.countP (·.kind == .handler) = graph.routeCount := by
    rw [hcount, filter_handler_slots, List.length_map, length_handlerPaths]
  have hauths : artifacts.countP (·.kind == .auth) =
      if cfg.auth then (graph.guarded cfg).length else 0 := by
    rw [hcount, filter_auth_slots, List.length_map, length_authPaths]
  exact {
    paths := rfl
    handlers := hhandlers
    authInterfaces := hauths
    errorCatalog := (hany .authError).trans (any_slots (.inl rfl))
    policyTable := (hany .policy).trans (any_slots (.inr rfl)) }

end RouteGraph

end RouteScaffold
