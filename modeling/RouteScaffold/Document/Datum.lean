/-!
The values that documents are made of, whatever their format.

Records keep their fields as written, in order and with repeats, and the reader of a value decides
what a repeat means.
-/

namespace RouteScaffold

inductive Datum where
  | null
  | bool (b : Bool)
  /-- A number in its written form. -/
  | number (written : String)
  | text (s : String)
  /-- A text without quotes, with its tag, in a format where the reader decides what such a text is. -/
  | bare (s : String) (tag : Option String)
  /-- A point in time in its written form. -/
  | date (written : String)
  /-- A value that may stand where nothing reads it, such as half of a surrogate pair. -/
  | unreadable
  | list (items : List Datum)
  | record (fields : List (Datum × Datum))
  deriving Repr, Inhabited

namespace Datum

/-- The tag of values that are absent. -/
def nullTag : String := "tag:yaml.org,2002:null"

/-- The unquoted words for an absent value. -/
def isNullWord (s : String) : Bool :=
  s == "~" || s == "null" || s == "Null" || s == "NULL"

def text? : Datum → Option String
  | .text s | .bare s _ => some s
  | _ => none

/-- A text that may be absent. -/
def optionalText? : Datum → Option (Option String)
  | .null => some none
  | .text s => some (some s)
  | .bare s none => some (if s == "" || isNullWord s then none else some s)
  | .bare s (some tag) =>
    if tag == nullTag then (if isNullWord s then some none else none) else some (some s)
  | _ => none

def bool? : Datum → Option Bool
  | .bool b => some b
  | _ => none

/-- The items of a list; an empty unquoted text is an empty list. -/
def items? : Datum → Option (List Datum)
  | .list items => some items
  | .bare "" _ => some []
  | _ => none

/-- The fields of a record; an empty unquoted text is an empty record, and a date has no field that
any record knows. -/
def fields? : Datum → Option (List (Datum × Datum))
  | .record fields => some fields
  | .bare "" _ => some []
  | .date _ => some []
  | _ => none

end Datum

end RouteScaffold
