import RouteScaffold.Document.Datum

/-!
Reading records field by field.

A field may have several spellings, of which a record may use one, once. Fields that nobody asks for
do not count.
-/

namespace RouteScaffold

/-- What differs between formats when records are read. -/
structure Dialect where
  /-- A record may be written as the list of its fields in their fixed order. -/
  positional : Bool
  deriving DecidableEq, Repr

/-- A record as it was given. -/
inductive Record where
  | named (fields : List (String × Datum))
  | positional (items : List Datum)
  deriving Repr

/-- A field under its name, if the name is a text. -/
def Datum.namedField? (field : Datum × Datum) : Option (String × Datum) :=
  field.1.text?.map fun name => (name, field.2)

/-- The record of at most `width` fields that a value gives. -/
def Datum.record? (dialect : Dialect) (width : Nat) : Datum → Option Record
  | .list items =>
    if dialect.positional && items.length ≤ width then some (.positional items) else none
  | d =>
    (d.fields?.bind (·.mapM namedField?)).map .named

namespace Record

/-- The value of a field, if it is given; a field given twice is refused. -/
def slot? (record : Record) (position : Nat) (names : List String) : Option (Option Datum) :=
  match record with
  | .positional items => some items[position]?
  | .named fields =>
    match fields.filter fun f => names.contains f.1 with
    | [] => some none
    | [f] => some (some f.2)
    | _ => none

/-- Reads a field that has a default. -/
def read {α : Type} (record : Record) (position : Nat) (names : List String) (default : α)
    (decode : Datum → Option α) : Option α :=
  (record.slot? position names).bind fun slot =>
    match slot with
    | none => some default
    | some d => decode d

/-- Reads a field that has to be there. -/
def require {α : Type} (record : Record) (position : Nat) (names : List String)
    (decode : Datum → Option α) : Option α :=
  (record.slot? position names).bind fun slot => slot.bind decode

end Record

end RouteScaffold
