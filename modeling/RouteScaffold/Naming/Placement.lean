import RouteScaffold.Naming.Token

/-!
Where a handler is put, and the import paths that its file needs.

The folder of a route is the folder annotation of the route, else that of its group, cut at slashes;
handlers and the logic packages they call are laid out alike below two roots.
-/

namespace RouteScaffold.Naming

def handlerRoot : String := "internal/handler"

def logicRoot : String := "internal/logic"

/-- The package with the service context that every handler is given. -/
def contextPackage : String := "internal/svc"

def typesPackage : String := "internal/types"

def authRoot : String := "internal/auth"

def policyRoot : String := "etc"

/-- The logic package called by handlers outside every folder. -/
def defaultLogicPackage : String := "logic"

/-- The parts of a slash-separated text that are not empty. -/
def nonemptySegments (s : List Char) : List (List Char) :=
  (s.splitOn '/').filter (!·.isEmpty)

/-- Joins import paths by single slashes, without empty segments. -/
def joinPackages (parts : List String) : String :=
  String.ofList (['/'].intercalate (parts.flatMap fun part => nonemptySegments part.toList))

/-- The part after the last slash. -/
def leafSegment (path : String) : String :=
  String.ofList ((path.toList.splitOn '/').getLastD [])

/-- The folder annotation that counts for a route: its own, else that of its group. -/
def folderAnnotation? (group : Group) (route : Route) (cfg : Config) : Option String :=
  route.annotation? cfg.annotations.folder <|> group.annotation? cfg.annotations.folder

/-- The folder of a route below the roots; without an annotation it is the root itself. -/
def folderSegments (group : Group) (route : Route) (cfg : Config) : List (List Char) :=
  match folderAnnotation? group route cfg with
  | some folder => nonemptySegments folder.toList
  | none => []

/-- The folder with the given segments below a root. -/
def folderBelow (root : String) (segments : List (List Char)) : String :=
  String.ofList (['/'].intercalate (nonemptySegments root.toList ++ segments))

def handlerFolder (group : Group) (route : Route) (cfg : Config) : String :=
  folderBelow handlerRoot (folderSegments group route cfg)

def logicFolder (group : Group) (route : Route) (cfg : Config) : String :=
  folderBelow logicRoot (folderSegments group route cfg)

/-- The imports of a handler file: its logic package, the service context and, for a route with a
request, the types. -/
def handlerImports (group : Group) (route : Route) (cfg : Config) : List String :=
  [joinPackages [cfg.rootPackage, logicFolder group route cfg],
   joinPackages [cfg.rootPackage, contextPackage]] ++
    if route.hasRequest then [joinPackages [cfg.rootPackage, typesPackage]] else []

example : joinPackages ["example.com/shop/", "/internal/logic/admin"] =
    "example.com/shop/internal/logic/admin" := by decide +kernel

end RouteScaffold.Naming
