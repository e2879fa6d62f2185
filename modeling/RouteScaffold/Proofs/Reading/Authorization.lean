import RouteScaffold.Proofs.Plan.Identifiers
import RouteScaffold.Proofs.Reading.Alike
import RouteScaffold.Proofs.Reading.Essence

/-!
# Graphs with the same subjects and tokens

Authorization reads of a graph which subjects its groups guard and by which tokens their routes go, and
nothing else. Two graphs that agree in this have the same interfaces, catalog and policy table, or fail
alike. The runs carry along who took which name; there they differ in labels only.
-/

namespace RouteScaffold

variable {cfg : Config} {renderer : Renderer}

def Route.SameToken (route other : Route) : Prop :=
  Text.trim route.handler = Text.trim other.handler

/-- What authorization reads of two groups is the same. -/
structure Group.GuardsAlike (cfg : Config) (group other : Group) : Prop where
  subject : cfg.auth = true → group.subject? cfg = other.subject? cfg
  routes : List.Forall₂ Route.SameToken group.routes other.routes

theorem Naming.tokenBase_congr {token other : String} (h : Text.trim token = Text.trim other) :
    tokenBase token = tokenBase other := by
  unfold tokenBase
  rw [← Text.toList_trim, h, Text.toList_trim]

theorem PlacedGroup.unlabelled_routeRef (cfg : Config) {route route' : Route}
    (h : route.SameToken route') (placed other : PlacedGroup) (routeIndex : Nat) :
    (placed.routeRef cfg routeIndex route).unlabelled =
      (other.routeRef cfg routeIndex route').unlabelled := by
  have htoken : Text.trim route.handler = Text.trim route'.handler := h
  unfold RouteRef.unlabelled routeRef
  rw [htoken]

theorem PlacedGroup.baseName_endAlike {route route' : Route} (h : route.SameToken route')
    (placed other : PlacedGroup) (routeIndex : Nat) :
    EndAlike Eq (placed.baseName cfg routeIndex route) (other.baseName cfg routeIndex route') := by
  unfold baseName
  rw [Naming.tokenBase_congr h]
  cases Naming.tokenBase route'.handler with
  | ok base => exact .ok rfl
  | error fault =>
    refine .error ?_
    rw [Failure.unlabelled, Failure.unlabelled, unlabelled_routeRef cfg h]

structure GuardedGroup.GuardsAlike (guarded other : GuardedGroup) : Prop where
  subject : guarded.subject = other.subject
  routes : List.Forall₂ Route.SameToken guarded.group.routes other.group.routes

theorem PlacedGroup.forall₂_routes {R : Route → Route → Prop} {placed other : PlacedGroup}
    (h : List.Forall₂ R placed.group.routes other.group.routes) :
    List.Forall₂ (fun p q => p.1 = q.1 ∧ R p.2 q.2) placed.routes other.routes :=
  forall₂_numbered h 0

theorem PlacedGroup.guarded?_guardsAlike (hauth : cfg.auth = true) {placed other : PlacedGroup}
    (h : placed.group.GuardsAlike cfg other.group) :
    Option.Rel GuardedGroup.GuardsAlike (placed.guarded? cfg) (other.guarded? cfg) := by
  unfold guarded?
  rw [h.subject hauth]
  cases other.group.subject? cfg with
  | none => exact .none
  | some subject => exact .some ⟨rfl, h.routes⟩

def RouteGraph.GuardsAlike (cfg : Config) (graph other : RouteGraph) : Prop :=
  List.Forall₂ (Group.GuardsAlike cfg) graph.groups other.groups

theorem RouteGraph.GuardsAlike.guarded {graph other : RouteGraph} (hauth : cfg.auth = true)
    (h : graph.GuardsAlike cfg other) :
    List.Forall₂ GuardedGroup.GuardsAlike (graph.guarded cfg) (other.guarded cfg) :=
  List.rel_filterMap (fun _ _ hplaced => PlacedGroup.guarded?_guardsAlike hauth hplaced)
    (forall₂_placed h)

/-! ### Interfaces -/

namespace GuardedGroup

variable {guarded other : GuardedGroup}

theorem authMethodsFrom_endAlike (hsubject : guarded.subject = other.subject)
    {routes routes' : List (Nat × Route)}
    (h : List.Forall₂ (fun p q => p.1 = q.1 ∧ Route.SameToken p.2 q.2) routes routes')
    {seen seen' : List (String × RouteRef)} (hseen : TakenAlike RouteRef.unlabelled seen seen') :
    EndAlike Eq (guarded.authMethodsFrom cfg seen routes)
      (other.authMethodsFrom cfg seen' routes') := by
  induction h generalizing seen seen' with
  | nil => exact .ok rfl
  | @cons p q _ _ hpq _ ih =>
    obtain ⟨routeIndex, route⟩ := p
    obtain ⟨_, route'⟩ := q
    obtain ⟨rfl, hroute⟩ := hpq
    have href := PlacedGroup.unlabelled_routeRef cfg hroute guarded.toPlacedGroup
      other.toPlacedGroup routeIndex
    unfold authMethodsFrom
    refine (PlacedGroup.baseName_endAlike hroute guarded.toPlacedGroup other.toPlacedGroup
      routeIndex).bind_eq fun base => ?_
    rw [hsubject]
    obtain ⟨hfree, hfree'⟩ | ⟨first, first', htaken, htaken', hlabels⟩ :=
      hseen.lookup_cases (AuthMethod.ofBase other.subject base).name
    · simp only [hfree, hfree']
      exact (ih (hseen.cons _ href)).bind_eq fun methods => .ok rfl
    · simp only [htaken, htaken']
      refine .error ?_
      rw [Failure.unlabelled, Failure.unlabelled, hlabels, href]

theorem emitAuth_endAlike (h : guarded.GuardsAlike other) :
    EndAlike Eq (guarded.emitAuth cfg renderer) (other.emitAuth cfg renderer) := by
  have hmethods : EndAlike Eq (guarded.authMethods cfg) (other.authMethods cfg) :=
    authMethodsFrom_endAlike h.subject (PlacedGroup.forall₂_routes h.routes) .nil
  have hface : EndAlike Eq (guarded.authInterface cfg) (other.authInterface cfg) := by
    refine hmethods.bind_eq fun methods => .ok ?_
    rw [h.subject]
  refine hface.bind_eq fun face => ?_
  rw [h.subject]
  exact .refl _

end GuardedGroup

namespace PlacedGroup

variable {placed other : PlacedGroup}

theorem emitAuth?_endAlike (hauth : cfg.auth = true) (h : placed.group.GuardsAlike cfg other.group) :
    EndAlike Eq (placed.emitAuth? cfg renderer) (other.emitAuth? cfg renderer) := by
  have hguarded := guarded?_guardsAlike hauth h
  unfold emitAuth?
  generalize placed.guarded? cfg = found, other.guarded? cfg = found' at hguarded ⊢
  cases hguarded with
  | none => exact .ok rfl
  | some hguarded =>
    refine (GuardedGroup.emitAuth_endAlike hguarded).map fun artifact artifact' hartifact => ?_
    rw [hartifact]

end PlacedGroup

/-! ### The catalog and the policy table -/

namespace Catalog

/-- One ledger, and the same names taken, by routes that differ in labels only. -/
structure State.Alike (state other : State) : Prop where
  ledger : state.ledger = other.ledger
  names : TakenAlike RouteRef.unlabelled state.names other.names

/-- One result, with states that are alike. -/
def StepAlike {α : Type} (p q : α × State) : Prop :=
  p.1 = q.1 ∧ p.2.Alike q.2

theorem addEntry_endAlike {guarded other : GuardedGroup} (hsubject : guarded.subject = other.subject)
    {state state' : State} (hstate : state.Alike state') (block routeIndex : Nat) {route route' : Route}
    (hroute : route.SameToken route') :
    EndAlike StepAlike (addEntry cfg guarded block state routeIndex route)
      (addEntry cfg other block state' routeIndex route') := by
  have href := PlacedGroup.unlabelled_routeRef cfg hroute guarded.toPlacedGroup other.toPlacedGroup
    routeIndex
  unfold addEntry
  refine (PlacedGroup.baseName_endAlike hroute guarded.toPlacedGroup other.toPlacedGroup
    routeIndex).bind_eq fun base => ?_
  rw [hsubject, hstate.ledger]
  obtain ⟨hfree, hfree'⟩ | ⟨first, first', htaken, htaken', hlabels⟩ :=
    hstate.names.lookup_cases (denialName other.subject.ident (Naming.actionName base))
  · simp only [hfree, hfree']
    refine (EndAlike.refl _).bind_eq fun code => .ok ⟨rfl, rfl, ?_⟩
    exact hstate.names.cons _ href
  · simp only [htaken, htaken']
    refine .error ?_
    rw [Failure.unlabelled, Failure.unlabelled, hlabels, href]

theorem addEntries_endAlike {guarded other : GuardedGroup} (hsubject : guarded.subject = other.subject)
    (block : Nat) {routes routes' : List (Nat × Route)}
    (h : List.Forall₂ (fun p q => p.1 = q.1 ∧ Route.SameToken p.2 q.2) routes routes')
    {state state' : State} (hstate : state.Alike state') :
    EndAlike StepAlike (addEntries cfg guarded block state routes)
      (addEntries cfg other block state' routes') := by
  induction h generalizing state state' with
  | nil => exact .ok ⟨rfl, hstate⟩
  | @cons p q _ _ hpq _ ih =>
    obtain ⟨routeIndex, route⟩ := p
    obtain ⟨_, route'⟩ := q
    obtain ⟨rfl, hroute⟩ := hpq
    unfold addEntries
    refine (addEntry_endAlike hsubject hstate block routeIndex hroute).bind fun step step' hstep => ?_
    refine (ih hstep.2).bind fun rest rest' hrest => .ok ⟨?_, hrest.2⟩
    rw [hstep.1, hrest.1]

theorem addGroup_endAlike {guarded other : GuardedGroup} (h : guarded.GuardsAlike other)
    {state state' : State} (hstate : state.Alike state') :
    EndAlike StepAlike (addGroup cfg state guarded) (addGroup cfg state' other) := by
  unfold addGroup
  rw [h.subject, h.routes.length_eq, hstate.ledger]
  refine (EndAlike.refl _).bind_eq fun block => ?_
  refine (addEntries_endAlike h.subject block (PlacedGroup.forall₂_routes h.routes) ?_).bind
    fun step step' hstep => .ok ⟨?_, hstep.2⟩
  · exact ⟨rfl, hstate.names⟩
  · rw [hstep.1]

theorem addGroups_endAlike {groups others : List GuardedGroup}
    (h : List.Forall₂ GuardedGroup.GuardsAlike groups others) {state state' : State}
    (hstate : state.Alike state') :
    EndAlike StepAlike (addGroups cfg state groups) (addGroups cfg state' others) := by
  induction h generalizing state state' with
  | nil => exact .ok ⟨rfl, hstate⟩
  | cons hguarded _ ih =>
    unfold addGroups
    refine (addGroup_endAlike hguarded hstate).bind fun step step' hstep => ?_
    refine (ih hstep.2).bind fun rest rest' hrest => .ok ⟨?_, hrest.2⟩
    rw [hstep.1, hrest.1]

end Catalog

namespace RouteGraph

variable {graph other : RouteGraph}

theorem emitErrorCatalog_endAlike (hauth : cfg.auth = true) (h : graph.GuardsAlike cfg other) :
    EndAlike Eq (graph.emitErrorCatalog cfg renderer) (other.emitErrorCatalog cfg renderer) := by
  have hgroups : EndAlike Eq (graph.denialGroups cfg) (other.denialGroups cfg) :=
    (Catalog.addGroups_endAlike (h.guarded hauth) ⟨rfl, .nil⟩).map fun _ _ hstep => hstep.1
  have hcatalog : EndAlike Eq (graph.denialCatalog cfg) (other.denialCatalog cfg) :=
    hgroups.bind_eq fun groups => .refl _
  exact hcatalog.bind_eq fun catalog => .refl _

theorem emitPolicyTable_endAlike (hauth : cfg.auth = true) (h : graph.GuardsAlike cfg other) :
    EndAlike Eq (graph.emitPolicyTable cfg) (other.emitPolicyTable cfg) := by
  have hgroup : ∀ guarded other : GuardedGroup, guarded.GuardsAlike other →
      EndAlike Eq (guarded.policyRows cfg) (other.policyRows cfg) := by
    intro guarded other hguarded
    have hactions : EndAlike Eq
        (guarded.routes.mapM fun p => guarded.actionRow cfg p.1 p.2)
        (other.routes.mapM fun p => other.actionRow cfg p.1 p.2) := by
      refine .mapM_eq (PlacedGroup.forall₂_routes hguarded.routes) fun p q hpq => ?_
      obtain ⟨routeIndex, route⟩ := p
      obtain ⟨_, route'⟩ := q
      obtain ⟨rfl, hroute⟩ := hpq
      refine (PlacedGroup.baseName_endAlike hroute _ _ routeIndex).bind_eq fun base => .ok ?_
      rw [hguarded.subject]
    refine hactions.bind_eq fun actions => .ok ?_
    rw [hguarded.subject]
  have hrows : EndAlike Eq (graph.policyRows cfg) (other.policyRows cfg) :=
    (EndAlike.mapM_eq (h.guarded hauth) hgroup).bind_eq fun rows => .refl _
  exact hrows.bind_eq fun rows => .refl _

end RouteGraph

end RouteScaffold
