import RouteScaffold.ErrorCode.Ledger
import RouteScaffold.Naming.Subject

/-!
The catalog of denial errors: one entry for every route of an authorization-bearing group.

The groups are taken in graph order and each opens the next block of codes; the entries of a group
take its codes in route order. No two entries of the catalog share a name.
-/

namespace RouteScaffold

/-- The message for callers that lack a capability. -/
def denialMessage (subject action : String) : String :=
  "You do not have permission to perform this action: " ++ subject ++ "::" ++ action

/-- The identifier of the denial error of an action on a subject. -/
def denialName (subject action : String) : String :=
  "Err" ++ subject ++ action ++ "Denied"

structure DenialEntry where
  name : String
  code : Nat
  message : String
  deriving DecidableEq, Repr

/-- The entries of one authorization-bearing group. -/
structure DenialGroup where
  subject : String
  policyKey : String
  /-- The index of the block that holds the codes of the group. -/
  groupIndex : Nat
  entries : List DenialEntry
  deriving DecidableEq, Repr

namespace Catalog

/-- What the catalog has used up so far. -/
structure State where
  ledger : CodeLedger := {}
  /-- The entry names taken, with the routes that took them. -/
  names : List (String × RouteRef) := []

/-- Adds the entry of one route. -/
def addEntry (cfg : Config) (guarded : GuardedGroup) (block : Nat) (state : State)
    (routeIndex : Nat) (route : Route) : Except Failure (DenialEntry × State) := do
  let ref := guarded.routeRef cfg routeIndex route
  let base ← guarded.baseName cfg routeIndex route
  let name := denialName guarded.subject.ident (Naming.actionName base)
  match state.names.lookup name with
  | some first => .error (.duplicateIdentifier name first ref)
  | none =>
    let (result, ledger) := state.ledger.issue block routeIndex name
    let code ← result
    let message := denialMessage guarded.subject.snake (Naming.snakeCase base)
    .ok ({ name, code, message }, { ledger, names := (name, ref) :: state.names })

def addEntries (cfg : Config) (guarded : GuardedGroup) (block : Nat) (state : State) :
    List (Nat × Route) → Except Failure (List DenialEntry × State)
  | [] => .ok ([], state)
  | (routeIndex, route) :: routes => do
    let (entry, state) ← addEntry cfg guarded block state routeIndex route
    let (entries, state) ← addEntries cfg guarded block state routes
    .ok (entry :: entries, state)

/-- Opens the block of a group and adds the entries of its routes. -/
def addGroup (cfg : Config) (state : State) (guarded : GuardedGroup) :
    Except Failure (DenialGroup × State) := do
  let (result, ledger) := state.ledger.openBlock guarded.subject.ident guarded.group.routes.length
  let block ← result
  let (entries, state) ← addEntries cfg guarded block { state with ledger } guarded.routes
  .ok ({ subject := guarded.subject.ident, policyKey := guarded.subject.policyKey,
         groupIndex := block, entries }, state)

def addGroups (cfg : Config) (state : State) :
    List GuardedGroup → Except Failure (List DenialGroup × State)
  | [] => .ok ([], state)
  | guarded :: rest => do
    let (group, state) ← addGroup cfg state guarded
    let (groups, state) ← addGroups cfg state rest
    .ok (group :: groups, state)

end Catalog

/-- The denial catalog of a graph. -/
def RouteGraph.denialGroups (graph : RouteGraph) (cfg : Config) : Except Failure (List DenialGroup) :=
  (Catalog.addGroups cfg {} (graph.guarded cfg)).map Prod.fst

end RouteScaffold
