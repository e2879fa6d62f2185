import RouteScaffold.Project.Load

/-!
The options of a run, put together from the options file and the command line.

The command line wins over the file, and a template directory that the file gives is seen from the
directory of the file.
-/

namespace RouteScaffold

/-- What a command says about its graph and its options. -/
structure ProjectArgs where
  graph : Path
  config : Option Path := none
  style : Option String := none
  rootPackage : Option String := none
  noAuth : Bool := false
  /-- A directory of template overrides. -/
  home : Option Path := none
  deriving DecidableEq, Repr

/-- The options of a file, with the template directory seen from where the file is. -/
def Config.seenFrom (cfg : Config) (file : Path) : Config :=
  match cfg.templateDir, file.parent? with
  | some dir, some base =>
    if dir.isAbsolute then cfg else { cfg with templateDir := some (base.join dir) }
  | _, _ => cfg

/-- The options with those of the command line in place of them. -/
def ProjectArgs.override (args : ProjectArgs) (cfg : Config) : Config :=
  { cfg with
    namingFormat := args.style.getD cfg.namingFormat
    rootPackage := args.rootPackage.getD cfg.rootPackage
    auth := cfg.auth && !args.noAuth
    templateDir := args.home <|> cfg.templateDir }

/-- Options whose naming format is one. -/
def Config.checked (cfg : Config) : Except RunFault Config :=
  match cfg.naming with
  | .ok _ => .ok cfg
  | .error failure => .error (.configInvalid failure)

variable {m : Type → Type} [Monad m] [Host m]

/-- The options of the selected file, or the default ones. -/
def ProjectArgs.fileConfig (args : ProjectArgs) : ExceptT RunFault m Config := do
  match ← ExceptT.lift (selectConfig args.config args.graph) with
  | none => pure {}
  | some path =>
    match ← loadConfig path with
    | none => throw (.configMissing path)
    | some cfg =>
      ExceptT.lift (Host.log
        { level := .debug
          target := "routegen::cli::commands"
          message := "loaded configuration"
          fields := [("path", .text path.text)] })
      pure (cfg.seenFrom path)

/-- The options that a run works with. -/
def ProjectArgs.resolve (args : ProjectArgs) : ExceptT RunFault m Config := do
  let cfg ← args.fileConfig
  ExceptT.mk (pure (args.override cfg).checked)

/-- The graph and the options of a run. -/
def ProjectArgs.load (args : ProjectArgs) : ExceptT RunFault m (RouteGraph × Config) := do
  let graph ← loadGraph args.graph
  let cfg ← args.resolve
  pure (graph, cfg)

end RouteScaffold
