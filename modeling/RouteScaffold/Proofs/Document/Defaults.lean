import RouteScaffold.Project.Load

/-!
# Options that a document leaves out

A document of options may leave out any field, and its default stands for it. `Given` keeps apart what a
document gives from what it leaves open, and reading the options is reading what is given and filling in the
defaults.

The main statement is `Config.read?_eq_given`.
-/

namespace RouteScaffold

namespace Record

variable {α β : Type} {record : Record} {position : Nat} {names : List String}

/-- Reads a field that may be left out. -/
def given? (record : Record) (position : Nat) (names : List String) (decode : Datum → Option α) :
    Option (Option α) :=
  (record.slot? position names).bind fun slot =>
    match slot with
    | none => some none
    | some d => (decode d).map some

theorem read_eq_given? (default : α) (decode : Datum → Option α) :
    record.read position names default decode =
      (record.given? position names decode).map (·.getD default) := by
  unfold read given?
  cases record.slot? position names with
  | none => rfl
  | some slot =>
    cases slot with
    | none => rfl
    | some d => cases hd : decode d <;> simp [hd]

theorem given?_map (f : α → β) (decode : Datum → Option α) :
    (record.given? position names fun d => (decode d).map f) =
      (record.given? position names decode).map (·.map f) := by
  unfold given?
  cases record.slot? position names with
  | none => rfl
  | some slot =>
    cases slot with
    | none => rfl
    | some d => cases hd : decode d <;> simp [hd]

end Record

namespace AnnotationKeys

/-- Annotation keys, each of which may be left open. -/
structure Given where
  folder : Option String := none
  auth : Option String := none
  deriving DecidableEq

def Given.completed (given : Given) : AnnotationKeys where
  folder := given.folder.getD "group"
  auth := given.auth.getD "group"

def Given.ofDatum? (dialect : Dialect) (d : Datum) : Option Given := do
  let record ← d.record? dialect 2
  let folder ← record.given? 0 ["folder"] Datum.text?
  let auth ← record.given? 1 ["auth"] Datum.text?
  some { folder, auth }

theorem ofDatum?_eq_given (dialect : Dialect) :
    ofDatum? dialect = fun d => (Given.ofDatum? dialect d).map Given.completed := by
  funext d
  unfold ofDatum? Given.ofDatum?
  simp only [Option.bind_eq_bind, Option.map_bind, Option.bind_map, Function.comp_def,
    Record.read_eq_given?]
  rfl

end AnnotationKeys

namespace Config

/-- Options, each of which may be left open. -/
structure Given where
  namingFormat : Option String := none
  rootPackage : Option String := none
  auth : Option Bool := none
  annotations : AnnotationKeys.Given := {}
  templateDir : Option Path := none
  deriving DecidableEq

def Given.completed (given : Given) : Config where
  namingFormat := given.namingFormat.getD "gozero"
  rootPackage := given.rootPackage.getD ""
  auth := given.auth.getD true
  annotations := given.annotations.completed
  templateDir := given.templateDir

def Given.ofDatum? (dialect : Dialect) (d : Datum) : Option Given := do
  let record ← d.record? dialect 5
  let namingFormat ← record.given? 0 ["naming_format"] Datum.text?
  let rootPackage ← record.given? 1 ["root_package"] Datum.text?
  let auth ← record.given? 2 ["auth"] Datum.bool?
  let annotations ← record.given? 3 ["annotations"] (AnnotationKeys.Given.ofDatum? dialect)
  let templateDir ← record.given? 4 ["template_dir"] Datum.optionalText?
  some
    { namingFormat, rootPackage, auth
      annotations := annotations.getD {}
      templateDir := templateDir.join.map Path.mk }

theorem ofDatum?_eq_given (dialect : Dialect) :
    ofDatum? dialect = fun d => (Given.ofDatum? dialect d).map Given.completed := by
  have hkeys : ∀ keys : Option AnnotationKeys.Given,
      (keys.map AnnotationKeys.Given.completed).getD {} = (keys.getD {}).completed := by
    intro keys
    cases keys <;> rfl
  have hdir : ∀ dir : Option (Option String), dir.getD none = dir.join := by
    intro dir
    cases dir <;> rfl
  funext d
  unfold ofDatum? Given.ofDatum?
  simp only [Option.bind_eq_bind, Option.map_bind, Option.bind_map, Function.comp_def,
    Record.read_eq_given?, AnnotationKeys.ofDatum?_eq_given, Record.given?_map, hkeys, hdir]
  rfl

/-- The options that a text gives. -/
def Given.read? (source : String) : Option Given :=
  (Toml.parse? source).bind (Given.ofDatum? { positional := true })

theorem read?_eq_given (source : String) : read? source = (Given.read? source).map Given.completed := by
  simp only [read?, Given.read?, Option.map_bind, Function.comp_def, ofDatum?_eq_given]

end Config

end RouteScaffold
