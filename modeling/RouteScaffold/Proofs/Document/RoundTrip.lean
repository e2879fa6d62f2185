import RouteScaffold.Project.Load
import RouteScaffold.Proofs.Document.Json

/-!
# Graphs and options survive being written

A written record carries every field under one spelling, and an absent name or template directory has no
field at all, so that each field is found where the reader looks for it. Annotations come back as the same
map because their entries are written in key order.

The main statement is `documents_read_back`.
-/

namespace RouteScaffold

namespace SortedMap

variable {κ ν : Type} [Ord κ] [Std.TransOrd κ]

/-- An entry whose key is greater than all others comes last. -/
theorem insertEntry_of_forall_lt {entries : List (κ × ν)} {key : κ} {value : ν}
    (h : ∀ e ∈ entries, compare e.1 key = .lt) :
    insertEntry key value entries = entries ++ [(key, value)] := by
  induction entries with
  | nil => rfl
  | cons head rest ih =>
    obtain ⟨hhead, hrest⟩ := List.forall_mem_cons.1 h
    have hgt : compare key head.1 = .gt := Std.OrientedCmp.gt_iff_lt.2 hhead
    rw [insertEntry, hgt]
    simp only [ih hrest, List.cons_append]

theorem entries_foldl_insert (m : SortedMap κ ν) (entries : List (κ × ν))
    (h : (m.entries ++ entries).Pairwise fun a b => compare a.1 b.1 = .lt) :
    (entries.foldl (fun m e => m.insert e.1 e.2) m).entries = m.entries ++ entries := by
  induction entries generalizing m with
  | nil => rw [List.foldl_nil, List.append_nil]
  | cons e entries ih =>
    have hlast : (m.insert e.1 e.2).entries = m.entries ++ [e] :=
      insertEntry_of_forall_lt fun e' he' => (List.pairwise_append.1 h).2.2 e' he' e List.mem_cons_self
    have hassoc : m.entries ++ e :: entries = (m.insert e.1 e.2).entries ++ entries := by
      rw [hlast, List.append_assoc, List.singleton_append]
    rw [hassoc] at h ⊢
    exact ih _ h

/-- A map is the map of its own entries. -/
theorem ofList_entries (m : SortedMap κ ν) : ofList m.entries = m :=
  ext (entries_foldl_insert empty m.entries m.sorted)

end SortedMap

/-! ### Lists and records -/

theorem mapM_map_eq_some {α β : Type} {encode : α → β} {decode : β → Option α}
    (h : ∀ x, decode (encode x) = some x) (xs : List α) : (xs.map encode).mapM decode = some xs := by
  induction xs with
  | nil => rfl
  | cons x xs ih =>
    rw [List.map_cons, List.mapM_cons, h x, ih]
    rfl

namespace Datum

/-- The record of fields under the given names. -/
def ofFields (fields : List (String × Datum)) : Datum :=
  .record (fields.map fun field => (.text field.1, field.2))

/-- The names of the fields of a record. -/
def fieldNames (d : Datum) : List String :=
  (d.fields?.getD []).filterMap fun field => field.1.text?

theorem fieldNames_ofFields (fields : List (String × Datum)) :
    (ofFields fields).fieldNames = fields.map Prod.fst := by
  simp [fieldNames, ofFields, fields?, List.filterMap_map, text?, List.filterMap_eq_map']

theorem record?_ofFields (dialect : Dialect) (width : Nat) (fields : List (String × Datum)) :
    (ofFields fields).record? dialect width = some (.named fields) := by
  have hfield : ∀ field : String × Datum, namedField? (.text field.1, field.2) = some field := fun _ => rfl
  have hnamed := mapM_map_eq_some hfield fields
  rw [ofFields, record?, fields?, Option.bind_some, hnamed]
  · rfl
  · rintro _ ⟨⟩

theorem listOf?_list {α : Type} {decode : Datum → Option α} {encode : α → Datum}
    (h : ∀ x, decode (encode x) = some x) (xs : List α) :
    (Datum.list (xs.map encode)).listOf? decode = some xs :=
  mapM_map_eq_some h xs

end Datum

namespace Record

variable {α : Type} {fields : List (String × Datum)} {names : List String} {default : α}
  {decode : Datum → Option α}

/-- A field that is written once, under one of its spellings, is the one that is read. -/
theorem read_of_filter {field : String × Datum} (h : fields.filter (names.contains ·.1) = [field])
    (position : Nat) : (named fields).read position names default decode = decode field.2 := by
  rw [read, slot?, h]
  rfl

theorem require_of_filter {field : String × Datum} (h : fields.filter (names.contains ·.1) = [field])
    (position : Nat) : (named fields).require position names decode = decode field.2 := by
  rw [require, slot?, h]
  rfl

theorem read_of_filter_nil (h : fields.filter (names.contains ·.1) = []) (position : Nat) :
    (named fields).read position names default decode = some default := by
  rw [read, slot?, h]
  rfl

end Record

/-! ### Graphs -/

theorem Annotations.ofDatum?_datum (annotations : Annotations) :
    ofDatum? annotations.datum = some annotations := by
  have hentry : ∀ e : String × String, entry? (.text e.1, .text e.2) = some e := fun _ => rfl
  have hentries := mapM_map_eq_some hentry annotations.entries
  rw [ofDatum?, datum, Datum.fields?, Option.bind_some, hentries, Option.map_some, SortedMap.ofList_entries]

namespace Route

def fields (route : Route) : List (String × Datum) :=
  [("handler", .text route.handler),
   ("request_type", .text route.requestType),
   ("response_type", .text route.responseType),
   ("doc", .text route.doc),
   ("annotations", route.annotations.datum)]

theorem datum_eq_ofFields (route : Route) : route.datum = .ofFields route.fields := rfl

theorem ofDatum?_datum (dialect : Dialect) (route : Route) : ofDatum? dialect route.datum = some route := by
  have hrequest : route.fields.filter (["request_type", "request"].contains ·.1) =
      [("request_type", .text route.requestType)] := rfl
  have hresponse : route.fields.filter (["response_type", "response"].contains ·.1) =
      [("response_type", .text route.responseType)] := rfl
  have hdoc : route.fields.filter (["doc"].contains ·.1) = [("doc", .text route.doc)] := rfl
  have hhandler : route.fields.filter (["handler"].contains ·.1) = [("handler", .text route.handler)] := rfl
  have hannotations : route.fields.filter (["annotations"].contains ·.1) =
      [("annotations", route.annotations.datum)] := rfl
  rw [ofDatum?, datum_eq_ofFields, Datum.record?_ofFields]
  simp only [Option.bind_eq_bind, Option.bind_some, Record.require_of_filter hhandler,
    Record.read_of_filter hrequest, Record.read_of_filter hresponse, Record.read_of_filter hdoc,
    Record.read_of_filter hannotations, Datum.text?, Annotations.ofDatum?_datum]

end Route

namespace Group

def fields (group : Group) : List (String × Datum) :=
  (group.name.toList.map fun name => ("name", .text name)) ++
    [("annotations", group.annotations.datum), ("routes", .list (group.routes.map Route.datum))]

theorem datum_eq_ofFields (group : Group) : group.datum = .ofFields group.fields := by
  simp [datum, fields, Datum.ofFields]

theorem ofDatum?_datum (dialect : Dialect) (group : Group) : ofDatum? dialect group.datum = some group := by
  have hroutes := Datum.listOf?_list (Route.ofDatum?_datum dialect) group.routes
  have hwrittenAnnotations : group.fields.filter (["annotations"].contains ·.1) =
      [("annotations", group.annotations.datum)] := by
    cases hname : group.name <;> simp [fields, hname]
  have hwrittenRoutes : group.fields.filter (["routes"].contains ·.1) =
      [("routes", .list (group.routes.map Route.datum))] := by
    cases hname : group.name <;> simp [fields, hname]
  have hname : (Record.named group.fields).read 0 ["name"] none Datum.optionalText? = some group.name := by
    cases hname : group.name with
    | none => exact Record.read_of_filter_nil (by simp [fields, hname]) 0
    | some name =>
      have hwritten : group.fields.filter (["name"].contains ·.1) = [("name", .text name)] := by
        simp [fields, hname]
      exact Record.read_of_filter hwritten 0
  rw [ofDatum?, datum_eq_ofFields, Datum.record?_ofFields]
  simp only [Option.bind_eq_bind, Option.bind_some, hname, Record.read_of_filter hwrittenAnnotations,
    Record.read_of_filter hwrittenRoutes, Annotations.ofDatum?_datum, hroutes]

end Group

namespace RouteGraph

def fields (graph : RouteGraph) : List (String × Datum) :=
  [("groups", .list (graph.groups.map Group.datum))]

theorem datum_eq_ofFields (graph : RouteGraph) : graph.datum = .ofFields graph.fields := rfl

theorem ofDatum?_datum (dialect : Dialect) (graph : RouteGraph) :
    ofDatum? dialect graph.datum = some graph := by
  have hgroups := Datum.listOf?_list (Group.ofDatum?_datum dialect) graph.groups
  have hwritten : graph.fields.filter (["groups"].contains ·.1) =
      [("groups", .list (graph.groups.map Group.datum))] := rfl
  rw [ofDatum?, datum_eq_ofFields, Datum.record?_ofFields]
  simp only [Option.bind_eq_bind, Option.bind_some, Record.read_of_filter hwritten, hgroups]

end RouteGraph

/-! ### Options -/

namespace AnnotationKeys

def fields (keys : AnnotationKeys) : List (String × Datum) :=
  [("folder", .text keys.folder), ("auth", .text keys.auth)]

theorem datum_eq_ofFields (keys : AnnotationKeys) : keys.datum = .ofFields keys.fields := rfl

theorem ofDatum?_datum (dialect : Dialect) (keys : AnnotationKeys) :
    ofDatum? dialect keys.datum = some keys := by
  have hfolder : keys.fields.filter (["folder"].contains ·.1) = [("folder", .text keys.folder)] := rfl
  have hauth : keys.fields.filter (["auth"].contains ·.1) = [("auth", .text keys.auth)] := rfl
  rw [ofDatum?, datum_eq_ofFields, Datum.record?_ofFields]
  simp only [Option.bind_eq_bind, Option.bind_some, Record.read_of_filter hfolder,
    Record.read_of_filter hauth, Datum.text?]

end AnnotationKeys

namespace Config

/-- The fields that are always written. -/
def fixedFields (cfg : Config) : List (String × Datum) :=
  [("naming_format", .text cfg.namingFormat),
   ("root_package", .text cfg.rootPackage),
   ("auth", .bool cfg.auth),
   ("annotations", cfg.annotations.datum)]

def fields (cfg : Config) : List (String × Datum) :=
  cfg.fixedFields ++ cfg.templateDir.toList.map fun dir => ("template_dir", .text dir.text)

theorem datum_eq_ofFields (cfg : Config) : cfg.datum = .ofFields cfg.fields := by
  simp [datum, fields, fixedFields, Datum.ofFields]

theorem filter_fields {cfg : Config} {names : List String} {field : String × Datum}
    (h : cfg.fixedFields.filter (names.contains ·.1) = [field]) (hdir : "template_dir" ∉ names) :
    cfg.fields.filter (names.contains ·.1) = [field] := by
  rw [fields, List.filter_append, h]
  cases cfg.templateDir <;> simp [hdir]

theorem ofDatum?_datum (dialect : Dialect) (cfg : Config) : ofDatum? dialect cfg.datum = some cfg := by
  have hformat : cfg.fields.filter (["naming_format"].contains ·.1) =
      [("naming_format", .text cfg.namingFormat)] := filter_fields rfl (by decide)
  have hpackage : cfg.fields.filter (["root_package"].contains ·.1) =
      [("root_package", .text cfg.rootPackage)] := filter_fields rfl (by decide)
  have hauth : cfg.fields.filter (["auth"].contains ·.1) = [("auth", .bool cfg.auth)] :=
    filter_fields rfl (by decide)
  have hannotations : cfg.fields.filter (["annotations"].contains ·.1) =
      [("annotations", cfg.annotations.datum)] := filter_fields rfl (by decide)
  have hdir : (Record.named cfg.fields).read 4 ["template_dir"] none Datum.optionalText? =
      some (cfg.templateDir.map Path.text) := by
    cases hdir : cfg.templateDir with
    | none => exact Record.read_of_filter_nil (by simp [fields, fixedFields, hdir]) 4
    | some dir =>
      have hwritten : cfg.fields.filter (["template_dir"].contains ·.1) =
          [("template_dir", .text dir.text)] := by
        simp [fields, fixedFields, hdir]
      exact Record.read_of_filter hwritten 4
  have hpath : (cfg.templateDir.map Path.text).map Path.mk = cfg.templateDir := by
    cases cfg.templateDir <;> rfl
  rw [ofDatum?, datum_eq_ofFields, Datum.record?_ofFields]
  simp only [Option.bind_eq_bind, Option.bind_some, Record.read_of_filter hformat,
    Record.read_of_filter hpackage, Record.read_of_filter hauth, Record.read_of_filter hannotations,
    hdir, hpath, Datum.text?, Datum.bool?, AnnotationKeys.ofDatum?_datum]

end Config

/-! ### Written documents -/

open Json (Plain)

theorem Json.Plain.ofFields {fields : List (String × Datum)} (h : ∀ field ∈ fields, Plain field.2) :
    Plain (Datum.ofFields fields) :=
  .record h

theorem Annotations.plain_datum (annotations : Annotations) : Plain annotations.datum := by
  have hrecord : annotations.datum = .ofFields (annotations.entries.map fun e => (e.1, .text e.2)) := by
    simp [datum, Datum.ofFields]
  rw [hrecord]
  refine .ofFields fun field hfield => ?_
  obtain ⟨e, -, rfl⟩ := List.mem_map.1 hfield
  exact .text e.2

theorem Route.plain_datum (route : Route) : Plain route.datum := by
  rw [datum_eq_ofFields]
  refine .ofFields ?_
  simp only [fields, List.forall_mem_cons, List.not_mem_nil]
  exact ⟨.text _, .text _, .text _, .text _, route.annotations.plain_datum, nofun⟩

theorem Group.plain_datum (group : Group) : Plain group.datum := by
  have hroutes : ∀ item ∈ group.routes.map Route.datum, Plain item :=
    List.forall_mem_map.2 fun route _ => route.plain_datum
  rw [datum_eq_ofFields]
  refine .ofFields ?_
  simp only [fields, List.forall_mem_append, List.forall_mem_map, List.forall_mem_cons, List.not_mem_nil]
  exact ⟨fun name _ => .text name, group.annotations.plain_datum, .list hroutes, nofun⟩

theorem RouteGraph.plain_datum (graph : RouteGraph) : Plain graph.datum := by
  have hgroups : ∀ item ∈ graph.groups.map Group.datum, Plain item :=
    List.forall_mem_map.2 fun group _ => group.plain_datum
  rw [datum_eq_ofFields]
  exact .ofFields (List.forall_mem_singleton.2 (.list hgroups))

theorem AnnotationKeys.plain_datum (keys : AnnotationKeys) : Plain keys.datum := by
  rw [datum_eq_ofFields]
  refine .ofFields ?_
  simp only [fields, List.forall_mem_cons, List.not_mem_nil]
  exact ⟨.text _, .text _, nofun⟩

theorem Config.plain_datum (cfg : Config) : Plain cfg.datum := by
  rw [datum_eq_ofFields]
  refine .ofFields ?_
  simp only [fields, fixedFields, List.forall_mem_append, List.forall_mem_map, List.forall_mem_cons,
    List.not_mem_nil]
  exact ⟨⟨.text _, .text _, .bool _, cfg.annotations.plain_datum, nofun⟩, fun dir _ => .text dir.text⟩

/-- A graph and options are read back from their values and from the written documents. Only the fields of
what is absent are left out, and a type is written under its long spelling alone. -/
theorem documents_read_back (graph : RouteGraph) (cfg : Config) :
    (∀ dialect, RouteGraph.ofDatum? dialect graph.datum = some graph ∧
      Config.ofDatum? dialect cfg.datum = some cfg) ∧
    GraphFormat.json.read? (Json.write graph.datum) = some graph ∧
    (Json.parse? (Json.write cfg.datum)).bind (Config.ofDatum? { positional := true }) = some cfg ∧
    (∀ group ∈ graph.groups, "name" ∈ group.datum.fieldNames ↔ group.name.isSome) ∧
    ("template_dir" ∈ cfg.datum.fieldNames ↔ cfg.templateDir.isSome) ∧
    (∀ group ∈ graph.groups, ∀ route ∈ group.routes, ∀ spellings ∈
      [["request_type", "request"], ["response_type", "response"]],
        route.datum.fieldNames.filter (spellings.contains ·) = spellings.take 1) := by
  refine ⟨fun dialect => ⟨graph.ofDatum?_datum dialect, cfg.ofDatum?_datum dialect⟩, ?_, ?_, ?_, ?_, ?_⟩
  · rw [GraphFormat.read?, Json.parse?_write graph.plain_datum, Option.bind_some, graph.ofDatum?_datum]
  · rw [Json.parse?_write cfg.plain_datum, Option.bind_some, cfg.ofDatum?_datum]
  · intro group _
    rw [group.datum_eq_ofFields, Datum.fieldNames_ofFields, Group.fields]
    cases group.name <;> simp
  · rw [cfg.datum_eq_ofFields, Datum.fieldNames_ofFields, Config.fields, Config.fixedFields]
    cases cfg.templateDir <;> simp
  · intro _ _ route _
    rw [route.datum_eq_ofFields, Datum.fieldNames_ofFields]
    simp only [List.forall_mem_cons, List.not_mem_nil]
    exact ⟨rfl, rfl, nofun⟩

end RouteScaffold
