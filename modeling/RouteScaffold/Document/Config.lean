import RouteScaffold.Config
import RouteScaffold.Document.Record

/-!
The options of a run as a document.
-/

namespace RouteScaffold

namespace AnnotationKeys

def ofDatum? (dialect : Dialect) (d : Datum) : Option AnnotationKeys := do
  let record ← d.record? dialect 2
  let folder ← record.read 0 ["folder"] "group" Datum.text?
  let auth ← record.read 1 ["auth"] "group" Datum.text?
  some { folder, auth }

def datum (keys : AnnotationKeys) : Datum :=
  .record [(.text "folder", .text keys.folder), (.text "auth", .text keys.auth)]

end AnnotationKeys

namespace Config

def ofDatum? (dialect : Dialect) (d : Datum) : Option Config := do
  let record ← d.record? dialect 5
  let namingFormat ← record.read 0 ["naming_format"] "gozero" Datum.text?
  let rootPackage ← record.read 1 ["root_package"] "" Datum.text?
  let auth ← record.read 2 ["auth"] true Datum.bool?
  let annotations ← record.read 3 ["annotations"] {} (AnnotationKeys.ofDatum? dialect)
  let templateDir ← record.read 4 ["template_dir"] none Datum.optionalText?
  some { namingFormat, rootPackage, auth, annotations, templateDir := templateDir.map Path.mk }

/-- Options as a record; without a template directory there is no such field. -/
def datum (cfg : Config) : Datum :=
  .record
    ([(.text "naming_format", .text cfg.namingFormat),
      (.text "root_package", .text cfg.rootPackage),
      (.text "auth", .bool cfg.auth),
      (.text "annotations", cfg.annotations.datum)] ++
      cfg.templateDir.toList.map fun dir => (.text "template_dir", .text dir.text))

end Config

end RouteScaffold
