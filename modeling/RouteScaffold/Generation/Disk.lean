import RouteScaffold.Generation.Run
import RouteScaffold.Host

/-!
Generation on the file system of a host: template overrides are read from it and artifacts are
written to it.
-/

namespace RouteScaffold

variable {m : Type → Type} [Monad m] [Host m]

/-- Writes artifacts below `root`, with the directories that they need. -/
def diskSink (root : Path) : Sink m := fun artifact => do
  let path := root.join artifact.path
  match path.parent? with
  | some parent => ExceptT.adapt (Failure.write parent) (Host.makeDirs parent)
  | none => pure ()
  ExceptT.adapt (Failure.write path) (Host.writeText path artifact.contents)
  ExceptT.lift (Host.log
    { level := .debug
      target := "routegen::generator::sink"
      message := "wrote artifact"
      fields := [("kind", .text artifact.kind.label), ("path", .text path.text)] })

namespace TemplateRegistry

/-- Takes the template `name` from a directory, if a file of that name is there. -/
def override (dir : Path) (registry : TemplateRegistry) (name : String) :
    ExceptT Failure m TemplateRegistry := do
  let path := dir.join ⟨name⟩
  if ← ExceptT.lift (Host.hasFile path) then
    let source ← ExceptT.adapt (Failure.templateLoad path) (Host.readText path)
    ExceptT.lift (Host.log
      { level := .debug
        target := "routegen::generator::templates"
        message := "using template override"
        fields := [("template", .quoted name), ("path", .text path.text)] })
    pure (registry.insert name source)
  else pure registry

/-- The names in the order in which overrides are looked for. -/
def overridable : List String :=
  [Template.BuiltIn.handlerName, Template.BuiltIn.authName, Template.BuiltIn.authErrorName]

/-- The built-in templates, with those of a directory in place of them. -/
def load (dir : Option Path) : ExceptT Failure m TemplateRegistry :=
  match dir with
  | none => pure builtIn
  | some dir => overridable.foldlM (override dir) builtIn

end TemplateRegistry

/-- Generates into a sink and logs what was done. -/
def RouteGraph.generateLogged (graph : RouteGraph) (cfg : Config) (registry : TemplateRegistry)
    (sink : Sink m) : ExceptT Failure m Report := do
  let report ← graph.generate cfg registry sink
  ExceptT.lift (Host.log
    { level := .info
      target := "routegen::generator::project"
      message := "generation complete"
      fields :=
        [("handlers", .nat report.handlers),
         ("auth_interfaces", .nat report.authInterfaces),
         ("error_catalog", .bool report.errorCatalog),
         ("policy_table", .bool report.policyTable)] })
  pure report

/-- Generates into a directory, with the template overrides of the options. -/
def RouteGraph.generateToDir (graph : RouteGraph) (cfg : Config) (output : Path) :
    ExceptT Failure m Report := do
  let registry ← TemplateRegistry.load cfg.templateDir
  graph.generateLogged cfg registry (diskSink output)

end RouteScaffold
