import RouteScaffold.Naming.Subject

/-!
The policy table: who may do what, one row for each action of a subject and one for all of them.
-/

namespace RouteScaffold

structure PolicyRow where
  name : String
  scope : String
  deriving DecidableEq, Repr

namespace PolicyRow

/-- The row that grants every action on a subject. -/
def management (policyKey : String) : PolicyRow :=
  { name := policyKey ++ "_management", scope := policyKey ++ "::*" }

def action (policyKey action : String) : PolicyRow :=
  { name := policyKey ++ "_" ++ action, scope := policyKey ++ "::" ++ action }

def text (row : PolicyRow) : String :=
  "p, " ++ row.name ++ ", " ++ row.scope ++ ", true"

end PolicyRow

/-- The row of one route of a guarded group. -/
def GuardedGroup.actionRow (guarded : GuardedGroup) (cfg : Config) (routeIndex : Nat) (route : Route) :
    Except Failure PolicyRow := do
  let base ← guarded.baseName cfg routeIndex route
  .ok (.action guarded.subject.policyKey (Naming.snakeCase base))

/-- The management row of a group, then the rows of its routes. -/
def GuardedGroup.policyRows (guarded : GuardedGroup) (cfg : Config) : Except Failure (List PolicyRow) := do
  let rows ← guarded.routes.mapM fun (routeIndex, route) => guarded.actionRow cfg routeIndex route
  .ok (.management guarded.subject.policyKey :: rows)

def RouteGraph.policyRows (graph : RouteGraph) (cfg : Config) : Except Failure (List PolicyRow) := do
  let rows ← (graph.guarded cfg).mapM (·.policyRows cfg)
  .ok rows.flatten

/-- The table as text, one row a line, without a newline at its end. -/
def PolicyRow.table (rows : List PolicyRow) : String :=
  "\n".intercalate (rows.map text)

end RouteScaffold
