import RouteScaffold.Proofs.Catalog.Denials
import RouteScaffold.Proofs.Plan.Success

/-!
# Agreement of the artifacts

Handlers, capability methods, denial entries and policy rows are made by four walks over the same
graph. When the graph has a plan, the walks agree route by route: what a handler calls is what its
method guards, what its entry denies and what its row grants.

The main statement is `plan_agrees`.
-/

namespace RouteScaffold

/-- What one group contributes to a plan. -/
structure GroupOutput where
  handlers : List HandlerPlan
  methods : List AuthMethod
  denials? : Option DenialGroup
  rows : List PolicyRow

/-- The names that one route gets in the four artifacts. -/
structure RouteAgrees (subject : Subject) (base : String) (handler : HandlerPlan)
    (method : AuthMethod) (entry : DenialEntry) (row : PolicyRow) : Prop where
  call : handler.data.call = Text.title base
  logicType : handler.data.logicType = Text.title base ++ "Logic"
  methodName : method.name = "Can" ++ Text.title base
  action : method.action = Naming.snakeCase base
  entryName : entry.name = "Err" ++ subject.ident ++ Text.title base ++ "Denied"
  message : ∃ lead, entry.message = lead ++ (subject.snake ++ "::" ++ Naming.snakeCase base)
  scope : method.scope = row.scope
  rowScope : row.scope = subject.policyKey ++ "::" ++ Naming.snakeCase base

/-- The parts of a guarded group: one of each kind for a route, and the management row. -/
structure GroupAgrees (subject : Subject) (routes : List Route) (output : GroupOutput)
    (denials : DenialGroup) : Prop where
  denials_eq : output.denials? = some denials
  denials_subject : denials.subject = subject.ident
  handlers : output.handlers.length = routes.length
  methods : output.methods.length = routes.length
  entries : denials.entries.length = routes.length
  rows : output.rows.length = routes.length + 1
  management : output.rows[0]? = some (.management subject.policyKey)
  route : ∀ (i : Nat) (route : Route), routes[i]? = some route →
    ∃ base handler method entry row, Naming.tokenBase route.handler = .ok base ∧
      output.handlers[i]? = some handler ∧ output.methods[i]? = some method ∧
        denials.entries[i]? = some entry ∧ output.rows[i + 1]? = some row ∧
          RouteAgrees subject base handler method entry row

/-- What the four walks give at a group. -/
inductive OutputOf (cfg : Config) (naming : Naming.NamingFormat) :
    PlacedGroup → GroupOutput → Prop where
  | bare {placed : PlacedGroup} {output : GroupOutput} (subject : placed.guarded? cfg = none)
      (handlers : placed.handlerPlans cfg naming = .ok output.handlers)
      (interface : ∀ renderer, placed.emitAuth? cfg renderer = .ok none)
      (methods : output.methods = []) (denials : output.denials? = none)
      (rows : output.rows = []) : OutputOf cfg naming placed output
  | guarded {placed : PlacedGroup} {guarded : GuardedGroup} {output : GroupOutput}
      {denials : DenialGroup} (subject : placed.guarded? cfg = some guarded)
      (handlers : placed.handlerPlans cfg naming = .ok output.handlers)
      (methods : guarded.authMethods cfg = .ok output.methods)
      (rows : guarded.policyRows cfg = .ok output.rows)
      (agrees : GroupAgrees guarded.subject placed.group.routes output denials) :
      OutputOf cfg naming placed output

theorem Text.title_append {s : String} (hs : s.toList ≠ []) (t : String) :
    Text.title (s ++ t) = Text.title s ++ t := by
  apply String.toList_inj.1
  rw [toList_title, String.toList_append, String.toList_append, toList_title]
  cases hchars : s.toList with
  | nil => exact absurd hchars hs
  | cons c rest => rw [List.cons_append, titleChars_cons, titleChars_cons, List.append_assoc]

theorem routeAgrees_of_hasBase {guarded : GuardedGroup} {route : Route} (h : route.HasBase)
    (cfg : Config) (naming : Naming.NamingFormat) (block routeIndex : Nat) :
    RouteAgrees guarded.subject route.base
      (Naming.handlerPlan cfg naming guarded.group route route.base) (guarded.methodAt route)
      (guarded.entryAt block routeIndex route) (guarded.rowAt route) where
  call := rfl
  logicType := by
    change Text.title (route.base ++ "Logic") = _
    exact Text.title_append h.base_ne_nil "Logic"
  methodName := rfl
  action := rfl
  entryName := rfl
  message := by
    refine ⟨"You do not have permission to perform this action: ", ?_⟩
    unfold GuardedGroup.entryAt denialMessage
    rw [String.append_assoc, String.append_assoc, String.append_assoc]
  scope := rfl
  rowScope := rfl

/-- The parts of a guarded group whose codes stand in the given block. -/
def GuardedGroup.outputAt (guarded : GuardedGroup) (cfg : Config) (naming : Naming.NamingFormat)
    (block : Nat) : GroupOutput where
  handlers := guarded.group.routes.map fun route =>
    Naming.handlerPlan cfg naming guarded.group route route.base
  methods := guarded.group.routes.map guarded.methodAt
  denials? := some (guarded.denialGroupAt block)
  rows := guarded.rowsAt

theorem GuardedGroup.groupAgrees_outputAt (guarded : GuardedGroup)
    (h : ∀ route ∈ guarded.group.routes, route.HasBase) (cfg : Config)
    (naming : Naming.NamingFormat) (block : Nat) :
    GroupAgrees guarded.subject guarded.group.routes (guarded.outputAt cfg naming block)
      (guarded.denialGroupAt block) where
  denials_eq := rfl
  denials_subject := rfl
  handlers := List.length_map _
  methods := List.length_map _
  entries := guarded.length_entries_denialGroupAt block
  rows := by
    change (guarded.rowsAt).length = _
    rw [rowsAt, List.length_cons, List.length_map]
  management := rfl
  route := by
    intro i route hroute
    have hbase : route.HasBase := h route (List.mem_of_getElem? hroute)
    refine ⟨route.base, _, _, _, _, hbase.tokenBase_eq, ?_, ?_, ?_, ?_,
      routeAgrees_of_hasBase hbase cfg naming block i⟩
    · rw [outputAt, List.getElem?_map, hroute]
      rfl
    · rw [outputAt, List.getElem?_map, hroute]
      rfl
    · rw [guarded.getElem?_entries_denialGroupAt, hroute]
      rfl
    · rw [outputAt, rowsAt, List.getElem?_cons_succ, List.getElem?_map, hroute]
      rfl

section Outputs

variable {cfg : Config} {naming : Naming.NamingFormat}

theorem outputOf_bare {placed : PlacedGroup} (hsubject : placed.guarded? cfg = none)
    (hbases : ∀ route ∈ placed.group.routes, route.HasBase) :
    OutputOf cfg naming placed
      { handlers := placed.group.routes.map fun route =>
          Naming.handlerPlan cfg naming placed.group route route.base
        methods := []
        denials? := none
        rows := [] } := by
  refine .bare hsubject (PlacedGroup.handlerPlans_eq_ok_iff.2 ⟨hbases, rfl⟩) ?_ rfl rfl rfl
  intro renderer
  unfold PlacedGroup.emitAuth?
  rw [hsubject]

theorem outputOf_guarded {placed : PlacedGroup} {guarded : GuardedGroup}
    (hsubject : placed.guarded? cfg = some guarded)
    (hbases : ∀ route ∈ placed.group.routes, route.HasBase)
    (hmethods : guarded.authMethods cfg = .ok (guarded.group.routes.map guarded.methodAt))
    (block : Nat) : OutputOf cfg naming placed (guarded.outputAt cfg naming block) := by
  obtain rfl := PlacedGroup.toPlacedGroup_of_guarded? hsubject
  have hhandlers : guarded.handlerPlans cfg naming =
      .ok (guarded.outputAt cfg naming block).handlers :=
    PlacedGroup.handlerPlans_eq_ok_iff.2 ⟨hbases, rfl⟩
  have hrows : guarded.policyRows cfg = .ok guarded.rowsAt :=
    GuardedGroup.policyRows_eq_ok_iff.2 ⟨hbases, rfl⟩
  exact .guarded hsubject hhandlers hmethods hrows
    (guarded.groupAgrees_outputAt hbases cfg naming block)

/-- Only groups with a subject take a block, so the blocks are counted along the guarded ones. -/
theorem exists_outputs (cfg : Config) (naming : Naming.NamingFormat) (block : Nat) (placeds : List PlacedGroup)
    (hbases : ∀ placed ∈ placeds, ∀ route ∈ placed.group.routes, route.HasBase)
    (hmethods : ∀ placed ∈ placeds, ∀ guarded, placed.guarded? cfg = some guarded →
      guarded.authMethods cfg = .ok (guarded.group.routes.map guarded.methodAt)) :
    ∃ outputs : List GroupOutput, List.Forall₂ (OutputOf cfg naming) placeds outputs ∧
      outputs.filterMap GroupOutput.denials? =
        ((placeds.filterMap (·.guarded? cfg)).zipIdx block).map (fun p => p.1.denialGroupAt p.2) ∧
      outputs.flatMap GroupOutput.rows =
        (placeds.filterMap (·.guarded? cfg)).flatMap GuardedGroup.rowsAt := by
  induction placeds generalizing block with
  | nil => exact ⟨[], .nil, rfl, rfl⟩
  | cons placed rest ih =>
    obtain ⟨hbase, hbases⟩ := List.forall_mem_cons.1 hbases
    obtain ⟨hmethod, hmethods⟩ := List.forall_mem_cons.1 hmethods
    cases hsubject : placed.guarded? cfg with
    | none =>
      obtain ⟨outputs, houtputs, hdenials, hrows⟩ := ih block hbases hmethods
      have hguarded : (placed :: rest).filterMap (·.guarded? cfg) =
          rest.filterMap (·.guarded? cfg) := List.filterMap_cons_none hsubject
      refine ⟨_, .cons (outputOf_bare hsubject hbase) houtputs, ?_, ?_⟩
      · rw [hguarded, ← hdenials]
        rfl
      · rw [hguarded, ← hrows]
        rfl
    | some guarded =>
      obtain ⟨outputs, houtputs, hdenials, hrows⟩ := ih (block + 1) hbases hmethods
      have houtput : OutputOf cfg naming placed (guarded.outputAt cfg naming block) :=
        outputOf_guarded hsubject hbase (hmethod guarded hsubject) block
      have hguarded : (placed :: rest).filterMap (·.guarded? cfg) =
          guarded :: rest.filterMap (·.guarded? cfg) := List.filterMap_cons_some hsubject
      refine ⟨_, .cons houtput houtputs, ?_, ?_⟩
      · rw [hguarded, List.zipIdx_cons, List.map_cons, ← hdenials]
        rfl
      · rw [hguarded, List.flatMap_cons, List.flatMap_cons, hrows]
        rfl

end Outputs

/-- When a graph has a plan with authorization, every group contributes to the catalog and to the
policy table what agrees with its methods and its handlers, in graph order. -/
theorem RouteGraph.plan_agrees {graph : RouteGraph} {cfg : Config} {registry : TemplateRegistry}
    {engine : Template.Engine} {artifacts : List Artifact}
    (hplan : graph.plan cfg registry engine = .ok artifacts) (hauth : cfg.auth = true) :
    ∃ naming groups rows outputs, cfg.naming = .ok naming ∧
      graph.denialGroups cfg = .ok groups ∧ graph.policyRows cfg = .ok rows ∧
        List.Forall₂ (OutputOf cfg naming) graph.placed outputs ∧
          groups = outputs.filterMap GroupOutput.denials? ∧
            rows = outputs.flatMap GroupOutput.rows := by
  obtain ⟨naming, renderer, owned, hnaming, -, howned, -, -⟩ := plan_eq_ok_iff.1 hplan
  obtain ⟨shared, hshared, parts, hparts, -⟩ := planOwned_eq_ok_iff.1 howned
  obtain ⟨_, hcatalog, _, hpolicy, -⟩ := (planShared_eq_ok_iff hauth).1 hshared
  obtain ⟨catalog, hdenialCatalog, -⟩ := Except.bind_eq_ok_iff.1 hcatalog
  obtain ⟨groups, hgroups, -⟩ := Except.bind_eq_ok_iff.1 hdenialCatalog
  obtain ⟨rows, hrows, -⟩ := Except.bind_eq_ok_iff.1 hpolicy
  have hplaced : ∀ placed ∈ graph.placed, ∃ part, placed.plan cfg naming renderer = .ok part :=
    fun _ => Except.exists_ok_of_mapM_eq_ok hparts
  obtain ⟨outputs, houtputs, hdenials, hflat⟩ :=
    exists_outputs cfg naming 0 graph.placed
      (fun placed hmem => PlacedGroup.hasBase_of_plan (hplaced placed hmem).choose_spec)
      (fun placed hmem guarded hsubject =>
        PlacedGroup.authMethods_of_plan hauth hsubject (hplaced placed hmem).choose_spec)
  refine ⟨naming, groups, rows, outputs, hnaming, hgroups, hrows, houtputs, ?_, ?_⟩
  · rw [hdenials]
    exact (denialGroups_eq_ok_iff.1 hgroups).2
  · rw [hflat]
    exact (policyRows_eq_ok_iff.1 hrows).2

/-- A plain group and a group that guards users. -/
def usersGraph : RouteGraph where
  groups :=
    [{ routes := [{ handler := "pingHandler" }] },
     { annotations := .ofList [("group", "users")]
       routes := [{ handler := "listAllHandler" }, { handler := "create" }] }]

def plainTemplates : TemplateRegistry :=
  .ofList [("auth.tpl", "package auth"), ("auth_error.tpl", "package auth"),
    ("handler.tpl", "package handler")]

theorem exists_plan_usersGraph : ∃ artifacts, usersGraph.plan {} plainTemplates = .ok artifacts :=
  Except.isOk_eq_true_iff.1 (by decide +kernel)

theorem usersGraph_plan_agrees :
    (usersGraph.plan {} plainTemplates).isOk = true ∧
      ∃ naming groups rows outputs, Config.naming {} = .ok naming ∧
        usersGraph.denialGroups {} = .ok groups ∧ usersGraph.policyRows {} = .ok rows ∧
          List.Forall₂ (OutputOf {} naming) usersGraph.placed outputs ∧
            groups = outputs.filterMap GroupOutput.denials? ∧
              rows = outputs.flatMap GroupOutput.rows := by
  have hok : (usersGraph.plan {} plainTemplates).isOk = true := by decide +kernel
  refine ⟨hok, ?_⟩
  cases hplan : usersGraph.plan {} plainTemplates with
  | error failure =>
    rw [hplan] at hok
    cases hok
  | ok artifacts => exact RouteGraph.plan_agrees hplan rfl

end RouteScaffold
