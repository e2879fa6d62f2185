import RouteScaffold.ErrorCode.Ledger
import RouteScaffold.Proofs.Catalog.Places
import RouteScaffold.Proofs.Except

/-!
# The pass that makes the denial catalog

The pass carries a ledger and a list of names through the groups. `Follows` is its invariant: the
next block of the ledger is the one of the next group, no code from `bound` on is issued, and a name
is taken exactly when an earlier place takes it. So the ledger never refuses a code, and each step
answers as its place demands; `Answers` says this for one step and is closed under sequencing.

The main statement is `denialGroups_eq`: the catalog is the one given by positions, unless some place
has a failure, and then the first of these failures is reported.
-/

namespace RouteScaffold

namespace CodeLedger

theorem issue_of_free {ledger : CodeLedger} {group action : Nat} (owner : String)
    (haction : action < 99) (hlimit : 2000 + 100 * group + action + 1 < 4294967296)
    (hfree : ledger.issued.get? (2000 + 100 * group + action + 1) = none) :
    ledger.issue group action owner =
      (.ok (2000 + 100 * group + action + 1),
        { ledger with
          issued := ledger.issued.insert (2000 + 100 * group + action + 1) owner }) := by
  rw [issue, issuable_eq, if_neg (by omega), if_neg (by omega), hfree]

end CodeLedger

namespace Catalog

variable {cfg : Config}

structure Follows (cfg : Config) (places : List Place) (next bound : Nat) (state : State) :
    Prop where
  nextGroup : state.ledger.nextGroup = next
  blocks : ∀ group, next ≤ group → state.ledger.blocks.get? group = none
  issued : ∀ code, bound ≤ code → state.ledger.issued.get? code = none
  names : ∀ name, state.names.lookup name = (takenNames cfg places).lookup name

theorem Follows.mono {places : List Place} {next bound bound' : Nat} {state : State}
    (h : Follows cfg places next bound state) (hbound : bound ≤ bound') :
    Follows cfg places next bound' state :=
  { h with issued := fun code hcode => h.issued code (Nat.le_trans hbound hcode) }

theorem follows_nil (cfg : Config) : Follows cfg [] 0 2000 {} where
  nextGroup := rfl
  blocks _ _ := rfl
  issued _ _ := rfl
  names _ := rfl

/-- A step reports the failure, if there is one; else it gives the value and a good state. -/
def Answers {α : Type} (failure? : Option Failure) (value : α) (good : State → Prop)
    (result : Except Failure (α × State)) : Prop :=
  match failure? with
  | some failure => result = .error failure
  | none => ∃ state, result = .ok (value, state) ∧ good state

namespace Answers

variable {α β : Type} {failure? failure?' : Option Failure} {value : α} {value' : β}
  {good good' : State → Prop} {result : Except Failure (α × State)}

theorem bind {next : α × State → Except Failure (β × State)}
    (h : Answers failure? value good result)
    (hnext : ∀ state, good state → Answers failure?' value' good' (next (value, state))) :
    Answers (failure?.or failure?') value' good' (result >>= next) := by
  cases failure? with
  | some failure =>
    have hresult : result = .error failure := h
    rw [hresult]
    rfl
  | none =>
    obtain ⟨state, rfl, hgood⟩ := h
    exact hnext state hgood

theorem map (f : α → β) (h : Answers failure? value good result) :
    Answers failure? (f value) good (result >>= fun p => .ok (f p.1, p.2)) := by
  have hbind : Answers (failure?.or none) (f value) good
      (result >>= fun p => .ok (f p.1, p.2)) :=
    h.bind fun state hgood => ⟨state, rfl, hgood⟩
  rwa [Option.or_none] at hbind

theorem imp (h : Answers failure? value good result) (himp : ∀ state, good state → good' state) :
    Answers failure? value good' result := by
  cases failure? with
  | some failure => exact h
  | none =>
    obtain ⟨state, hresult, hgood⟩ := h
    exact ⟨state, hresult, himp state hgood⟩

end Answers

/-! ### The steps of the pass -/

section Steps

variable {places : List Place} {next block : Nat} {state : State} (guarded : GuardedGroup)

theorem Follows.issue {routeIndex : Nat} {route : Route} {name : String}
    (h : Follows cfg places next (2000 + 100 * block + routeIndex + 1) state)
    (hname : name = guarded.entryName route)
    (hnew : (takenNames cfg places).lookup name = none) :
    Follows cfg (places ++ [.entry guarded routeIndex route]) next
      (2000 + 100 * block + (routeIndex + 1) + 1)
      { ledger :=
          { state.ledger with
            issued := state.ledger.issued.insert (2000 + 100 * block + routeIndex + 1) name }
        names := (name, guarded.routeRef cfg routeIndex route) :: state.names } where
  nextGroup := h.nextGroup
  blocks := h.blocks
  issued code hcode := by
    have hne : compare code (2000 + 100 * block + routeIndex + 1) ≠ .eq := by
      intro heq
      have hcode_eq := Std.LawfulEqOrd.eq_of_compare heq
      omega
    rw [SortedMap.get?_insert, if_neg hne]
    exact h.issued code (by omega)
  names other := by
    rw [takenNames_concat, List.lookup_append, ← h.names, List.lookup_cons]
    cases heq : other == name with
    | true =>
      rw [← h.names] at hnew
      rw [beq_iff_eq.1 heq, hnew]
      simp [Place.name?, hname]
    | false =>
      rw [hname] at heq
      simp [Place.name?, heq, List.lookup_cons]

theorem addEntry_answers {routeIndex : Nat} {route : Route}
    (h : Follows cfg places next (2000 + 100 * block + routeIndex + 1) state)
    (hindex : routeIndex < 99) (hblock : block ≤ 42949651) :
    Answers (entryFailure? cfg places guarded routeIndex route)
      (guarded.entryAt block routeIndex route)
      (Follows cfg (places ++ [.entry guarded routeIndex route]) next
        (2000 + 100 * block + (routeIndex + 1) + 1))
      (addEntry cfg guarded block state routeIndex route) := by
  unfold entryFailure? addEntry PlacedGroup.baseName
  cases hbase : Naming.tokenBase route.handler with
  | error fault => rfl
  | ok base =>
    have hroute : route.base = base := Route.base_eq_of_tokenBase hbase
    have hname : denialName guarded.subject.ident (Naming.actionName base) =
        guarded.entryName route := by rw [GuardedGroup.entryName, hroute]
    have hissue := CodeLedger.issue_of_free (guarded.entryName route) hindex
      (by omega) (h.issued _ (Nat.le_refl _))
    simp only [Except.ok_bind, hname, h.names]
    cases hlookup : (takenNames cfg places).lookup (guarded.entryName route) with
    | some first => rfl
    | none =>
      refine ⟨_, ?_, h.issue guarded rfl hlookup⟩
      unfold GuardedGroup.entryAt
      simp only [hissue, hroute]
      rfl

theorem addEntries_answers (start : Nat) (routes : List Route)
    (h : Follows cfg places next (2000 + 100 * block + start + 1) state)
    (hroutes : start + routes.length ≤ 99) (hblock : block ≤ 42949651) :
    Answers (firstFailure cfg places (entryPlaces guarded (numbered start routes)))
      ((numbered start routes).map fun p => guarded.entryAt block p.1 p.2)
      (Follows cfg (places ++ entryPlaces guarded (numbered start routes)) next
        (2000 + 100 * block + (start + routes.length) + 1))
      (addEntries cfg guarded block state (numbered start routes)) := by
  induction routes generalizing start places state with
  | nil =>
    refine ⟨state, rfl, ?_⟩
    rw [numbered_nil, entryPlaces, List.map_nil, List.append_nil]
    exact h
  | cons route routes ih =>
    rw [List.length_cons] at hroutes
    refine (addEntry_answers guarded h (by omega) hblock).bind fun state' h' => ?_
    have hrest := ih (start + 1) h' (by omega)
    rw [List.append_assoc] at hrest
    rw [List.length_cons, show start + (routes.length + 1) = start + 1 + routes.length by omega]
    exact hrest.map (guarded.entryAt block start route :: ·)

theorem Follows.openBlock {index : Nat} (subject : String)
    (h : Follows cfg places index (2000 + 100 * index) state) :
    Follows cfg (places ++ [.block index guarded]) (index + 1) (2000 + 100 * index + 0 + 1)
      { state with
        ledger :=
          { state.ledger with
            blocks := state.ledger.blocks.insert index subject
            nextGroup := index + 1 } } where
  nextGroup := rfl
  blocks group hgroup := by
    have hne : compare group index ≠ .eq := by
      intro heq
      have hgroup_eq := Std.LawfulEqOrd.eq_of_compare heq
      omega
    rw [SortedMap.get?_insert, if_neg hne]
    exact h.blocks group (by omega)
  issued code hcode := h.issued code (by omega)
  names name := by
    rw [takenNames_concat]
    exact (h.names name).trans (congrArg _ (List.append_nil _).symm)

theorem openBlock_answer {ledger : CodeLedger}
    (hfree : ledger.blocks.get? ledger.nextGroup = none) :
    ledger.openBlock guarded.subject.ident guarded.group.routes.length =
      match blockFailure? ledger.nextGroup guarded with
      | some failure => (.error failure, ledger)
      | none =>
        (.ok ledger.nextGroup,
          { ledger with
            blocks := ledger.blocks.insert ledger.nextGroup guarded.subject.ident
            nextGroup := ledger.nextGroup + 1 }) := by
  unfold blockFailure?
  rw [CodeLedger.openBlock, CodeLedger.openBlockAt, CodeLedger.openable_eq]
  by_cases hroutes : 99 < guarded.group.routes.length
  · rw [if_pos hroutes, if_pos hroutes]
  by_cases hgroup : 42949651 < ledger.nextGroup
  · rw [if_neg hroutes, if_neg hroutes, if_pos hgroup, if_pos hgroup]
  · rw [if_neg hroutes, if_neg hroutes, if_neg hgroup, if_neg hgroup, hfree]
    simp

theorem addGroup_answers {index : Nat} (h : Follows cfg places index (2000 + 100 * index) state) :
    Answers (firstFailure cfg places (groupPlaces index guarded)) (guarded.denialGroupAt index)
      (Follows cfg (places ++ groupPlaces index guarded) (index + 1) (2000 + 100 * (index + 1)))
      (addGroup cfg state guarded) := by
  have hopen := openBlock_answer guarded (h.blocks _ (Nat.le_of_eq h.nextGroup.symm))
  rw [h.nextGroup] at hopen
  unfold addGroup
  rw [hopen]
  change Answers ((blockFailure? index guarded).or
    (firstFailure cfg (places ++ [.block index guarded]) (entryPlaces guarded guarded.routes))) _ _ _
  cases hblock : blockFailure? index guarded with
  | some failure => rfl
  | none =>
    obtain ⟨hroutes, hindex⟩ := blockFailure?_eq_none_iff.1 hblock
    have hentries := addEntries_answers guarded 0 guarded.group.routes
      (h.openBlock guarded guarded.subject.ident) (by omega) hindex
    rw [List.append_assoc] at hentries
    have hgroup := hentries.map fun entries => { guarded.denialGroupAt index with entries }
    refine hgroup.imp fun state' h' => ?_
    exact h'.mono (by omega)

theorem addGroups_answers (start : Nat) (groups : List GuardedGroup)
    (h : Follows cfg places start (2000 + 100 * start) state) :
    Answers (firstFailure cfg places (placesFrom start groups))
      ((groups.zipIdx start).map fun p => p.1.denialGroupAt p.2)
      (Follows cfg (places ++ placesFrom start groups) (start + groups.length)
        (2000 + 100 * (start + groups.length)))
      (addGroups cfg state groups) := by
  induction groups generalizing start places state with
  | nil =>
    refine ⟨state, rfl, ?_⟩
    rw [placesFrom_nil, List.append_nil]
    exact h
  | cons guarded groups ih =>
    rw [placesFrom_cons, firstFailure_append]
    refine (addGroup_answers guarded h).bind fun state' h' => ?_
    have hrest := ih (start + 1) h'
    rw [List.append_assoc] at hrest
    rw [List.length_cons, show start + (groups.length + 1) = start + 1 + groups.length by omega]
    exact hrest.map (guarded.denialGroupAt start :: ·)

end Steps

end Catalog

/-- The places of the catalog of a graph. -/
def RouteGraph.catalogPlaces (graph : RouteGraph) (cfg : Config) : List Catalog.Place :=
  Catalog.placesFrom 0 (graph.guarded cfg)

/-- The catalog lists every guarded group at its position, or the first failure is reported. -/
theorem RouteGraph.denialGroups_eq (graph : RouteGraph) (cfg : Config) :
    graph.denialGroups cfg =
      match Catalog.firstFailure cfg [] (graph.catalogPlaces cfg) with
      | some failure => .error failure
      | none => .ok (graph.catalogAt cfg) := by
  have hpass := Catalog.addGroups_answers 0 (graph.guarded cfg) (Catalog.follows_nil cfg)
  rw [List.nil_append] at hpass
  unfold denialGroups catalogPlaces
  cases hfailure : Catalog.firstFailure cfg [] (Catalog.placesFrom 0 (graph.guarded cfg)) with
  | some failure =>
    rw [hfailure] at hpass
    have herror : Catalog.addGroups cfg {} (graph.guarded cfg) = .error failure := hpass
    rw [herror]
    rfl
  | none =>
    rw [hfailure] at hpass
    obtain ⟨state, hok, -⟩ := hpass
    rw [hok]
    rfl

theorem RouteGraph.firstFailure_of_denialGroups {graph : RouteGraph} {cfg : Config} {failure : Failure}
    (h : graph.denialGroups cfg = .error failure) :
    Catalog.firstFailure cfg [] (graph.catalogPlaces cfg) = some failure := by
  rw [denialGroups_eq] at h
  cases hfirst : Catalog.firstFailure cfg [] (graph.catalogPlaces cfg) with
  | none =>
    rw [hfirst] at h
    cases h
  | some found =>
    rw [hfirst] at h
    cases h
    rfl

end RouteScaffold
