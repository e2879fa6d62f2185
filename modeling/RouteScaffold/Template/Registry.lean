import RouteScaffold.Artifact
import RouteScaffold.SortedMap
import RouteScaffold.Template.BuiltIn
import RouteScaffold.Template.Engine

/-!
Template sources by name, and the same templates made ready for rendering.

All templates of a registry are read before any of them is rendered, so a broken one stops a run at
its start.
-/

namespace RouteScaffold

/-- Template sources by name. -/
abbrev TemplateRegistry := SortedMap String String

namespace TemplateRegistry

def builtIn : TemplateRegistry :=
  .ofList Template.BuiltIn.all

end TemplateRegistry

/-- Templates ready for rendering. -/
structure Renderer where
  /-- The text of a template for the given data. -/
  text (template : String) (data : Template.Scope) : Template.Outcome String

namespace Renderer

/-- The renderer for templates that an engine has read. -/
def ofTemplates (engine : Template.Engine) (templates : List (String × engine.Compiled)) :
    Renderer where
  text template data :=
    match templates.lookup template with
    | some compiled => engine.write templates compiled data
    | none => .error .unknownTemplate

/-- Renders a template into an artifact. -/
def render (renderer : Renderer) (kind : ArtifactKind) (template : String) (path : Path)
    (data : Template.Scope) : Except Failure Artifact :=
  match renderer.text template data with
  | .ok contents => .ok { kind, path, contents }
  | .error fault => .error (.templateRender template path fault)

end Renderer

namespace TemplateRegistry

/-- Reads one template. -/
def compileEntry (engine : Template.Engine) (entry : String × String) :
    Except Failure (String × engine.Compiled) :=
  match engine.read entry.1 entry.2 with
  | .ok compiled => .ok (entry.1, compiled)
  | .error fault => .error (.templateCompile entry.1 fault)

/-- Reads all templates in name order, up to the first that is no template. -/
def compile (registry : TemplateRegistry) (engine : Template.Engine := .standard) :
    Except Failure Renderer := do
  let templates ← registry.entries.mapM (compileEntry engine)
  .ok (.ofTemplates engine templates)

end TemplateRegistry

end RouteScaffold
