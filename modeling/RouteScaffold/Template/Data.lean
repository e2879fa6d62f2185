import RouteScaffold.Authorization.Capability
import RouteScaffold.Authorization.Catalog
import RouteScaffold.Handler
import RouteScaffold.Template.Render

/-!
What the templates of the generated files can name.
-/

namespace RouteScaffold

open Template (Value Scope)

/-- A list of texts as a template value. -/
def Template.Value.texts (texts : List String) : Value :=
  .list (texts.map .text)

def HandlerData.scope (data : HandlerData) : Scope :=
  [("pkg_name", .text data.pkgName),
   ("imports", .texts data.imports),
   ("handler_name", .text data.handlerName),
   ("request_type", .text data.requestType),
   ("logic_package", .text data.logicPackage),
   ("logic_type", .text data.logicType),
   ("call", .text data.call),
   ("has_request", .bool data.hasRequest),
   ("has_response", .bool data.hasResponse),
   ("has_doc", .bool data.hasDoc),
   ("doc", .text data.doc)]

def AuthMethod.value (method : AuthMethod) : Value :=
  .map [("action", .text method.action), ("name", .text method.name), ("scope", .text method.scope)]

def AuthInterface.scope (face : AuthInterface) : Scope :=
  [("auth_name", .text face.authName),
   ("subject", .text face.subject),
   ("auth_package", .text face.authPackage),
   ("module_name", .text face.moduleName),
   ("imports", .texts face.imports),
   ("methods", .list (face.methods.map AuthMethod.value))]

def DenialEntry.value (entry : DenialEntry) : Value :=
  .map [("code", .int entry.code), ("message", .text entry.message), ("name", .text entry.name)]

def DenialGroup.value (group : DenialGroup) : Value :=
  .map
    [("entries", .list (group.entries.map DenialEntry.value)),
     ("group_index", .int group.groupIndex),
     ("policy_key", .text group.policyKey),
     ("subject", .text group.subject)]

/-- The package of coded errors, seen from the module. -/
def errorPackage : String := "common/berr"

/-- What the catalog file shows. -/
structure DenialCatalog where
  imports : List String
  groups : List DenialGroup
  deriving DecidableEq, Repr

def DenialCatalog.scope (catalog : DenialCatalog) : Scope :=
  [("imports", .texts catalog.imports), ("groups", .list (catalog.groups.map DenialGroup.value))]

def RouteGraph.denialCatalog (graph : RouteGraph) (cfg : Config) : Except Failure DenialCatalog := do
  let groups ← graph.denialGroups cfg
  .ok { imports := [Naming.joinPackages [cfg.moduleName, errorPackage]], groups }

end RouteScaffold
