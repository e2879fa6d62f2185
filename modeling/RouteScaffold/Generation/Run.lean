import RouteScaffold.Generation.Plan

/-!
Running a plan: every artifact is handed to a sink, in order, and the run stops at the first one
that the sink refuses.

A sink is any action on artifacts, so that one definition serves a store in memory and a disk.
-/

namespace RouteScaffold

/-- What a run produced. -/
structure Report where
  handlers : Nat := 0
  authInterfaces : Nat := 0
  errorCatalog : Bool := false
  policyTable : Bool := false
  /-- The written paths in order. -/
  paths : List Path := []
  deriving DecidableEq, Repr

namespace Report

def total (report : Report) : Nat := report.paths.length

/-- Takes one more artifact into the report. -/
def record (report : Report) (artifact : Artifact) : Report :=
  let counted : Report :=
    match artifact.kind with
    | .handler => { report with handlers := report.handlers + 1 }
    | .auth => { report with authInterfaces := report.authInterfaces + 1 }
    | .authError => { report with errorCatalog := true }
    | .policy => { report with policyTable := true }
  { counted with paths := report.paths ++ [artifact.path] }

end Report

/-- An action that stores one artifact or fails. -/
abbrev Sink (m : Type → Type) := Artifact → ExceptT Failure m Unit

/-- Stores artifacts one after the other, up to the first failure. -/
def persistAll {m : Type → Type} [Monad m] (sink : Sink m) : List Artifact → ExceptT Failure m Unit
  | [] => pure ()
  | artifact :: rest => do
    sink artifact
    persistAll sink rest

/-- Plans the artifacts of a graph and stores them. -/
def RouteGraph.generate {m : Type → Type} [Monad m] (graph : RouteGraph) (cfg : Config)
    (registry : TemplateRegistry) (sink : Sink m) (engine : Template.Engine := .standard) :
    ExceptT Failure m Report := do
  let artifacts ← ExceptT.mk (pure (graph.plan cfg registry engine))
  persistAll sink artifacts
  pure (artifacts.foldl Report.record {})

end RouteScaffold
