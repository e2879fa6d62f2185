import RouteScaffold.Path

/-!
Generated files.
-/

namespace RouteScaffold

inductive ArtifactKind where
  | handler
  | auth
  | authError
  | policy
  deriving DecidableEq, Repr

def ArtifactKind.label : ArtifactKind → String
  | .handler => "handler"
  | .auth => "auth"
  | .authError => "auth error catalog"
  | .policy => "policy table"

/-- A file to be written, seen from the output root. -/
structure Artifact where
  kind : ArtifactKind
  path : Path
  contents : String
  deriving DecidableEq, Repr

end RouteScaffold
