import RouteScaffold.Failure
import RouteScaffold.Text.Blank

/-!
Options of a generation run.
-/

namespace RouteScaffold

/-- The annotation keys that are read from groups and routes. -/
structure AnnotationKeys where
  /-- Names the folder of a handler. -/
  folder : String := "group"
  /-- Names the subject that a group guards. -/
  auth : String := "group"
  deriving DecidableEq, Repr

/-- The naming format that a text spells, or the failure that reports the text. -/
def Naming.NamingFormat.ofText (s : String) : Except Failure NamingFormat :=
  (parse s).mapError (Failure.configuration s)

structure Config where
  namingFormat : String := "gozero"
  /-- The import path of the generated packages. -/
  rootPackage : String := ""
  /-- Whether authorization files are generated. -/
  auth : Bool := true
  annotations : AnnotationKeys := {}
  /-- A directory whose files replace built-in templates of the same name. -/
  templateDir : Option Path := none
  deriving DecidableEq, Repr

instance : Inhabited Config := ⟨{}⟩

namespace Config

/-- The configured naming format; a blank one stands for the default format. -/
def naming (cfg : Config) : Except Failure Naming.NamingFormat :=
  let format := Text.trim cfg.namingFormat
  if format == "" then .ok {} else Naming.NamingFormat.ofText format

def isValid (cfg : Config) : Bool :=
  cfg.naming.isOk

/-- The first segment of the root package. -/
def moduleName (cfg : Config) : String :=
  match (Text.trimMatches '/' cfg.rootPackage).toList.splitOn '/' with
  | first :: _ => String.ofList first
  | [] => ""

end Config

end RouteScaffold
