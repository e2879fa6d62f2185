import RouteScaffold.Naming.Token

/-!
The subject that an authorization-bearing group guards, and its spellings.
-/

namespace RouteScaffold

structure Subject where
  /-- The annotation as written, without the blanks around it. -/
  raw : String
  /-- The singular in camel case. -/
  ident : String
  /-- The identifier in snake case, for file names and denial messages. -/
  snake : String
  /-- The annotation in snake case, for policy scopes. -/
  policyKey : String
  deriving DecidableEq, Repr

namespace Subject

/-- The text without one final plural `s`. -/
def singular (raw : List Char) : List Char :=
  if raw.getLast? == some 's' then raw.dropLast else raw

/-- The subject of an annotation value; one that leaves no identifier names none. -/
def ofRaw? (raw : String) : Option Subject :=
  let ident := Naming.camelCase (String.ofList (singular raw.toList))
  if ident == "" then none
  else some { raw, ident, snake := Naming.snakeCase ident, policyKey := Naming.snakeCase raw }

end Subject

/-- The subject of a group; groups with a subject are the authorization-bearing ones. -/
def Group.subject? (group : Group) (cfg : Config) : Option Subject :=
  (group.annotation? cfg.annotations.auth).bind Subject.ofRaw?

/-- A placed group with the subject that it guards. -/
structure GuardedGroup extends PlacedGroup where
  subject : Subject
  deriving DecidableEq

def PlacedGroup.guarded? (placed : PlacedGroup) (cfg : Config) : Option GuardedGroup :=
  (placed.group.subject? cfg).map fun subject => { placed with subject }

/-- The authorization-bearing groups in graph order. -/
def RouteGraph.guarded (graph : RouteGraph) (cfg : Config) : List GuardedGroup :=
  graph.placed.filterMap (·.guarded? cfg)

example : (Subject.ofRaw? "user_roles").map (·.ident) = some "UserRole" := by decide +kernel
example : Subject.ofRaw? "s" = none := by decide +kernel

end RouteScaffold
