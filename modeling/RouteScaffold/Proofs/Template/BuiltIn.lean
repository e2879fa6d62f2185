import RouteScaffold.Generation.Emit
import RouteScaffold.Proofs.Template.Shape
import RouteScaffold.Proofs.Template.Trees

/-!
# The built-in templates

The built-in templates can be read, and each renders for all data of its kind. Their trees are checked
against the shapes of the data; what the data holds plays no part in it.

The main statement is `exists_builtIn_renderer`.
-/

namespace RouteScaffold

open Template

namespace HandlerData

def shape : ScopeShape :=
  [("pkg_name", .text), ("imports", .list .text), ("handler_name", .text), ("request_type", .text),
   ("logic_package", .text), ("logic_type", .text), ("call", .text), ("has_request", .bool),
   ("has_response", .bool), ("has_doc", .bool), ("doc", .text)]

end HandlerData

namespace AuthInterface

def shape : ScopeShape :=
  [("auth_name", .text), ("subject", .text), ("auth_package", .text), ("module_name", .text),
   ("imports", .list .text),
   ("methods", .list (.map [("action", .text), ("name", .text), ("scope", .text)]))]

end AuthInterface

namespace DenialCatalog

def entryShape : Shape :=
  .map [("code", .int), ("message", .text), ("name", .text)]

def groupShape : Shape :=
  .map
    [("entries", .list entryShape), ("group_index", .int), ("policy_key", .text),
     ("subject", .text)]

def shape : ScopeShape :=
  [("imports", .list .text), ("groups", .list groupShape)]

end DenialCatalog

theorem hasShape_texts (texts : List String) : HasShape (.texts texts) (.list .text) := by
  refine .list fun item hitem => ?_
  obtain ⟨s, -, rfl⟩ := List.mem_map.1 hitem
  exact .text s

theorem HandlerData.fits_scope (data : HandlerData) : data.scope.Fits HandlerData.shape := by
  refine .cons (.text _) (.cons (hasShape_texts _) (.cons (.text _) (.cons (.text _) ?_)))
  refine .cons (.text _) (.cons (.text _) (.cons (.text _) (.cons (.bool _) ?_)))
  exact .cons (.bool _) (.cons (.bool _) (.cons (.text _) (Scope.fits_nil [])))

theorem AuthInterface.fits_scope (face : AuthInterface) : face.scope.Fits AuthInterface.shape := by
  refine .cons (.text _) (.cons (.text _) (.cons (.text _) (.cons (.text _) ?_)))
  refine .cons (hasShape_texts _) (.cons (.list fun value hvalue => ?_) (Scope.fits_nil []))
  obtain ⟨method, -, rfl⟩ := List.mem_map.1 hvalue
  refine .map_of_fits ?_
  exact .cons (.text _) (.cons (.text _) (.cons (.text _) (Scope.fits_nil [])))

theorem DenialEntry.hasShape_value (entry : DenialEntry) :
    HasShape entry.value DenialCatalog.entryShape := by
  refine .map_of_fits ?_
  exact .cons (.int _) (.cons (.text _) (.cons (.text _) (Scope.fits_nil [])))

theorem DenialGroup.hasShape_value (group : DenialGroup) :
    HasShape group.value DenialCatalog.groupShape := by
  have hentries : HasShape (.list (group.entries.map DenialEntry.value))
      (.list DenialCatalog.entryShape) := by
    refine .list fun value hvalue => ?_
    obtain ⟨entry, -, rfl⟩ := List.mem_map.1 hvalue
    exact entry.hasShape_value
  refine .map_of_fits ?_
  exact .cons hentries (.cons (.int _) (.cons (.text _) (.cons (.text _) (Scope.fits_nil []))))

theorem DenialCatalog.fits_scope (catalog : DenialCatalog) :
    catalog.scope.Fits DenialCatalog.shape := by
  refine .cons (hasShape_texts _) (.cons (.list fun value hvalue => ?_) (Scope.fits_nil []))
  obtain ⟨group, -, rfl⟩ := List.mem_map.1 hvalue
  exact group.hasShape_value

/-- A renderer with a text for all data of the three kinds. -/
structure Renderer.Complete (renderer : Renderer) : Prop where
  handler : ∀ data : HandlerData, ∃ s, renderer.text BuiltIn.handlerName data.scope = .ok s
  auth : ∀ face : AuthInterface, ∃ s, renderer.text BuiltIn.authName face.scope = .ok s
  authError : ∀ catalog : DenialCatalog, ∃ s,
    renderer.text BuiltIn.authErrorName catalog.scope = .ok s

theorem TemplateRegistry.entries_builtIn :
    builtIn.entries =
      [(BuiltIn.authName, BuiltIn.auth), (BuiltIn.authErrorName, BuiltIn.authError),
        (BuiltIn.handlerName, BuiltIn.handler)] := by
  rfl

theorem TemplateRegistry.compileEntry_eq_ok {name source : String} {nodes : List Node}
    (h : Node.parse? source = some nodes) :
    compileEntry .standard (name, source) = .ok (name, nodes) := by
  unfold compileEntry Engine.standard
  simp only [h]

/-- The built-in templates as they come out of the registry. -/
def Template.BuiltIn.trees : List (String × List Node) :=
  [(authName, authTree), (authErrorName, authErrorTree), (handlerName, handlerTree)]

def Renderer.builtIn : Renderer :=
  .ofTemplates .standard BuiltIn.trees

theorem TemplateRegistry.compile_builtIn : builtIn.compile = .ok .builtIn := by
  have hentries : builtIn.entries.mapM (compileEntry .standard) = .ok BuiltIn.trees := by
    rw [entries_builtIn, Except.mapM_eq_ok_iff]
    exact .cons (compileEntry_eq_ok BuiltIn.parse_auth)
      (.cons (compileEntry_eq_ok BuiltIn.parse_authError)
        (.cons (compileEntry_eq_ok BuiltIn.parse_handler) .nil))
  rw [compile, hentries]
  rfl

namespace Renderer

theorem text_builtIn {template : String} {nodes : List Node}
    (h : BuiltIn.trees.lookup template = some nodes) (data : Scope) :
    builtIn.text template data = Node.renderAll data nodes := by
  unfold builtIn ofTemplates
  simp only [h]

theorem text_builtIn_auth (data : Scope) :
    builtIn.text BuiltIn.authName data = Node.renderAll data BuiltIn.authTree :=
  text_builtIn List.lookup_cons_self data

theorem text_builtIn_authError (data : Scope) :
    builtIn.text BuiltIn.authErrorName data = Node.renderAll data BuiltIn.authErrorTree := by
  refine text_builtIn ?_ data
  have hne : (BuiltIn.authErrorName == BuiltIn.authName) = false := by decide
  rw [BuiltIn.trees, List.lookup_cons, hne, List.lookup_cons_self]

theorem text_builtIn_handler (data : Scope) :
    builtIn.text BuiltIn.handlerName data = Node.renderAll data BuiltIn.handlerTree := by
  refine text_builtIn ?_ data
  have hne : (BuiltIn.handlerName == BuiltIn.authName) = false := by decide
  have hneError : (BuiltIn.handlerName == BuiltIn.authErrorName) = false := by decide
  rw [BuiltIn.trees, List.lookup_cons, hne, List.lookup_cons, hneError, List.lookup_cons_self]

theorem complete_builtIn : builtIn.Complete where
  handler data := by
    rw [text_builtIn_handler]
    exact Node.exists_renderAll data.fits_scope BuiltIn.handlerTree (by decide +kernel)
  auth face := by
    rw [text_builtIn_auth]
    exact Node.exists_renderAll face.fits_scope BuiltIn.authTree (by decide +kernel)
  authError catalog := by
    rw [text_builtIn_authError]
    exact Node.exists_renderAll catalog.fits_scope BuiltIn.authErrorTree (by decide +kernel)

end Renderer

theorem exists_builtIn_renderer :
    ∃ renderer, TemplateRegistry.builtIn.compile = .ok renderer ∧ renderer.Complete :=
  ⟨.builtIn, TemplateRegistry.compile_builtIn, Renderer.complete_builtIn⟩

end RouteScaffold
