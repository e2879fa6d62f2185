import RouteScaffold.Naming.Placement
import RouteScaffold.Naming.Subject

/-!
The capability interface of a guarded group: one method for each of its routes.
-/

namespace RouteScaffold

structure AuthMethod where
  name : String
  action : String
  /-- The policy scope that the method checks. -/
  scope : String
  deriving DecidableEq, Repr

namespace AuthMethod

/-- The method for the route with the given base name. -/
def ofBase (subject : Subject) (base : String) : AuthMethod :=
  let action := Naming.snakeCase base
  { name := "Can" ++ Naming.actionName base, action, scope := subject.policyKey ++ "::" ++ action }

end AuthMethod

namespace GuardedGroup

/-- The methods of the routes, given the names taken by earlier routes. -/
def authMethodsFrom (guarded : GuardedGroup) (cfg : Config) (seen : List (String × RouteRef)) :
    List (Nat × Route) → Except Failure (List AuthMethod)
  | [] => .ok []
  | (routeIndex, route) :: routes => do
    let ref := guarded.routeRef cfg routeIndex route
    let base ← guarded.baseName cfg routeIndex route
    let method := AuthMethod.ofBase guarded.subject base
    match seen.lookup method.name with
    | some first =>
      .error (.duplicateIdentifier (guarded.subject.ident ++ "Auth." ++ method.name) first ref)
    | none =>
      let methods ← guarded.authMethodsFrom cfg ((method.name, ref) :: seen) routes
      .ok (method :: methods)

/-- One method per route in route order; no two share a name. -/
def authMethods (guarded : GuardedGroup) (cfg : Config) : Except Failure (List AuthMethod) :=
  guarded.authMethodsFrom cfg [] guarded.routes

end GuardedGroup

/-- What the interface file of a guarded group shows. -/
structure AuthInterface where
  authName : String
  subject : String
  authPackage : String
  moduleName : String
  imports : List String
  methods : List AuthMethod
  deriving DecidableEq, Repr

/-- The package of the policy enforcer, seen from the module. -/
def enforcerPackage : String := "common/bauth"

/-- The package of the entity types, seen from the module. -/
def entityPackage : String := "ent"

def GuardedGroup.authInterface (guarded : GuardedGroup) (cfg : Config) :
    Except Failure AuthInterface := do
  let methods ← guarded.authMethods cfg
  .ok { authName := guarded.subject.ident
        subject := guarded.subject.snake
        authPackage := Naming.joinPackages [cfg.rootPackage, Naming.authRoot]
        moduleName := cfg.moduleName
        imports := [Naming.joinPackages [cfg.moduleName, enforcerPackage],
                    Naming.joinPackages [cfg.moduleName, entityPackage]]
        methods }

end RouteScaffold
