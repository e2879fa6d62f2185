import RouteScaffold.Generation.Plan
import RouteScaffold.Proofs.Catalog.Places
import RouteScaffold.Proofs.Except

/-!
# What is derived from the bases

Handlers, capability methods and policy rows are made by walks of their own. Here each walk is
reduced to the bases of its routes: it succeeds when they exist, and what it gives is a plain map over
the routes. Only the methods can fail for another reason, two equal names.
-/

namespace RouteScaffold

theorem PlacedGroup.baseName_bind_eq_ok_iff {α : Type} {placed : PlacedGroup} {cfg : Config}
    {routeIndex : Nat} {route : Route} {f : String → Except Failure α} {result : α} :
    placed.baseName cfg routeIndex route >>= f = .ok result ↔
      route.HasBase ∧ f route.base = .ok result := by
  rw [Except.bind_eq_ok_iff]
  constructor
  · rintro ⟨base, hbase, hf⟩
    have h := PlacedGroup.hasBase_of_baseName hbase
    rw [placed.baseName_of_hasBase cfg routeIndex h] at hbase
    cases hbase
    exact ⟨h, hf⟩
  · rintro ⟨h, hf⟩
    exact ⟨route.base, placed.baseName_of_hasBase cfg routeIndex h, hf⟩

/-- A walk over numbered routes that needs a base at each of them and gives a known result. -/
theorem mapM_numbered_eq_ok_iff {α : Type} {f : Nat × Route → Except Failure α} {g : Route → α}
    (h : ∀ routeIndex route result,
      f (routeIndex, route) = .ok result ↔ route.HasBase ∧ result = g route)
    {start : Nat} {routes : List Route} {results : List α} :
    (numbered start routes).mapM f = .ok results ↔
      (∀ route ∈ routes, route.HasBase) ∧ results = routes.map g := by
  have hwalk : (numbered start routes).mapM f = .ok results ↔
      (∀ p ∈ numbered start routes, p.2.HasBase) ∧
        results = (numbered start routes).map (g ∘ Prod.snd) :=
    Except.mapM_eq_ok_iff_forall fun p result => h p.1 p.2 result
  have hbases : (∀ p ∈ numbered start routes, p.2.HasBase) ↔ ∀ route ∈ routes, route.HasBase := by
    conv_rhs => rw [← map_snd_numbered start routes]
    rw [List.forall_mem_map]
  rw [hwalk, hbases, ← List.map_map, map_snd_numbered]

namespace PlacedGroup

variable {placed : PlacedGroup} {cfg : Config} {naming : Naming.NamingFormat}

theorem handlerPlan_eq_ok_iff {routeIndex : Nat} {route : Route} {plan : HandlerPlan} :
    placed.handlerPlan cfg naming routeIndex route = .ok plan ↔
      route.HasBase ∧ plan = Naming.handlerPlan cfg naming placed.group route route.base := by
  unfold handlerPlan
  rw [baseName_bind_eq_ok_iff, Except.ok.injEq]
  exact and_congr_right fun _ => eq_comm

theorem handlerPlans_eq_ok_iff {plans : List HandlerPlan} :
    placed.handlerPlans cfg naming = .ok plans ↔
      (∀ route ∈ placed.group.routes, route.HasBase) ∧
        plans = placed.group.routes.map fun route =>
          Naming.handlerPlan cfg naming placed.group route route.base := by
  unfold handlerPlans
  rw [routes_eq_numbered]
  exact mapM_numbered_eq_ok_iff fun _ _ _ => handlerPlan_eq_ok_iff

end PlacedGroup

namespace GuardedGroup

variable {guarded : GuardedGroup} {cfg : Config}

def methodAt (guarded : GuardedGroup) (route : Route) : AuthMethod :=
  AuthMethod.ofBase guarded.subject route.base

def rowAt (guarded : GuardedGroup) (route : Route) : PolicyRow :=
  .action guarded.subject.policyKey (Naming.snakeCase route.base)

def rowsAt (guarded : GuardedGroup) : List PolicyRow :=
  .management guarded.subject.policyKey :: guarded.group.routes.map guarded.rowAt

theorem actionRow_eq_ok_iff {routeIndex : Nat} {route : Route} {row : PolicyRow} :
    guarded.actionRow cfg routeIndex route = .ok row ↔ route.HasBase ∧ row = guarded.rowAt route := by
  unfold actionRow
  rw [PlacedGroup.baseName_bind_eq_ok_iff, Except.ok.injEq]
  exact and_congr_right fun _ => eq_comm

theorem policyRows_eq_ok_iff {rows : List PolicyRow} :
    guarded.policyRows cfg = .ok rows ↔
      (∀ route ∈ guarded.group.routes, route.HasBase) ∧ rows = guarded.rowsAt := by
  unfold policyRows
  rw [Except.bind_eq_ok_iff, PlacedGroup.routes_eq_numbered]
  constructor
  · rintro ⟨actions, hactions, hrows⟩
    cases hrows
    obtain ⟨hbases, rfl⟩ := (mapM_numbered_eq_ok_iff fun _ _ _ => actionRow_eq_ok_iff).1 hactions
    exact ⟨hbases, rfl⟩
  · rintro ⟨hbases, rfl⟩
    exact ⟨_, (mapM_numbered_eq_ok_iff fun _ _ _ => actionRow_eq_ok_iff).2 ⟨hbases, rfl⟩, rfl⟩

theorem authMethodsFrom_cons_eq_ok_iff {seen : List (String × RouteRef)} {routeIndex : Nat}
    {route : Route} {routes : List (Nat × Route)} {methods : List AuthMethod} :
    guarded.authMethodsFrom cfg seen ((routeIndex, route) :: routes) = .ok methods ↔
      route.HasBase ∧ seen.lookup (guarded.methodAt route).name = none ∧
        ∃ rest, methods = guarded.methodAt route :: rest ∧
          guarded.authMethodsFrom cfg
            (((guarded.methodAt route).name, guarded.routeRef cfg routeIndex route) :: seen) routes =
              .ok rest := by
  conv_lhs => unfold authMethodsFrom
  rw [PlacedGroup.baseName_bind_eq_ok_iff]
  refine and_congr_right fun _ => ?_
  cases hseen : seen.lookup (guarded.methodAt route).name with
  | some first =>
    unfold methodAt at hseen
    simp only [hseen, reduceCtorEq, false_and]
  | none =>
    unfold methodAt at hseen ⊢
    simp only [hseen, Except.bind_eq_ok_iff, Except.ok.injEq, true_and]
    constructor
    · rintro ⟨rest, hrest, rfl⟩
      exact ⟨rest, rfl, hrest⟩
    · rintro ⟨rest, rfl, hrest⟩
      exact ⟨rest, hrest, rfl⟩

theorem authMethodsFrom_eq_ok_iff {seen : List (String × RouteRef)} {start : Nat}
    {routes : List Route} {methods : List AuthMethod} :
    guarded.authMethodsFrom cfg seen (numbered start routes) = .ok methods ↔
      (∀ route ∈ routes, route.HasBase) ∧ methods = routes.map guarded.methodAt ∧
        (methods.map AuthMethod.name).Nodup ∧
        ∀ name ∈ methods.map AuthMethod.name, name ∉ seen.map Prod.fst := by
  induction routes generalizing seen start methods with
  | nil =>
    constructor
    · intro h
      cases h
      simp
    · rintro ⟨-, rfl, -⟩
      rfl
  | cons route routes ih =>
    rw [numbered_cons, authMethodsFrom_cons_eq_ok_iff, List.lookup_eq_none_iff_notMem,
      List.forall_mem_cons]
    constructor
    · rintro ⟨hbase, hfresh, rest, rfl, hrest⟩
      obtain ⟨hbases, rfl, hdistinct⟩ := ih.1 hrest
      exact ⟨⟨hbase, hbases⟩, rfl, List.nodup_fresh_cons_iff.2 ⟨hfresh, hdistinct⟩⟩
    · rintro ⟨⟨hbase, hbases⟩, rfl, hdistinct⟩
      obtain ⟨hfresh, hdistinct⟩ := List.nodup_fresh_cons_iff.1 hdistinct
      exact ⟨hbase, hfresh, _, rfl, ih.2 ⟨hbases, rfl, hdistinct⟩⟩

theorem authMethods_eq_ok_iff {methods : List AuthMethod} :
    guarded.authMethods cfg = .ok methods ↔
      (∀ route ∈ guarded.group.routes, route.HasBase) ∧
        methods = guarded.group.routes.map guarded.methodAt ∧
        (methods.map AuthMethod.name).Nodup := by
  unfold authMethods
  rw [PlacedGroup.routes_eq_numbered, authMethodsFrom_eq_ok_iff]
  simp

end GuardedGroup

namespace RouteGraph

variable {graph : RouteGraph} {cfg : Config}

theorem policyRows_eq_ok_iff {rows : List PolicyRow} :
    graph.policyRows cfg = .ok rows ↔
      (∀ guarded ∈ graph.guarded cfg, ∀ route ∈ guarded.group.routes, route.HasBase) ∧
        rows = (graph.guarded cfg).flatMap GuardedGroup.rowsAt :=
  Except.mapM_flatten_eq_ok_iff fun _ _ => GuardedGroup.policyRows_eq_ok_iff

/-- The plans of all handlers, from the bases of their routes. -/
def plansAt (graph : RouteGraph) (cfg : Config) (naming : Naming.NamingFormat) : List HandlerPlan :=
  graph.placed.flatMap fun placed => placed.group.routes.map fun route =>
    Naming.handlerPlan cfg naming placed.group route route.base

theorem handlerPlans_eq_ok_iff {naming : Naming.NamingFormat} {plans : List HandlerPlan} :
    graph.handlerPlans cfg naming = .ok plans ↔
      (∀ placed ∈ graph.placed, ∀ route ∈ placed.group.routes, route.HasBase) ∧
        plans = graph.plansAt cfg naming :=
  Except.mapM_flatten_eq_ok_iff fun _ _ => PlacedGroup.handlerPlans_eq_ok_iff

theorem forall_mem_plansAt {naming : Naming.NamingFormat} {P : HandlerPlan → Prop} :
    (∀ plan ∈ graph.plansAt cfg naming, P plan) ↔ ∀ group ∈ graph.groups,
      ∀ route ∈ group.routes, P (Naming.handlerPlan cfg naming group route route.base) := by
  rw [← map_group_placed, List.forall_mem_map]
  simp only [plansAt, List.forall_mem_flatMap, List.forall_mem_map]

end RouteGraph

end RouteScaffold
