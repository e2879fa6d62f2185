import RouteScaffold.Document.Datum

/-!
The tables of a TOML document while it is read.

A table is defined once: by a header, or by the dotted keys of the table around it. A table that a
header only passes through may still be given a header of its own. Values are never extended.
-/

namespace RouteScaffold.Toml

inductive TableKind where
  /-- Only headers of tables inside it have been met. -/
  | passed
  /-- It stems from dotted keys. -/
  | dotted
  /-- It has a header. -/
  | defined
  deriving DecidableEq, Repr

inductive Entry where
  | value (d : Datum)
  | table (kind : TableKind) (entries : List (String × Entry))
  /-- The tables of repeated headers in double brackets. -/
  | tables (items : List (List (String × Entry)))
  deriving Repr, Inhabited

abbrev Entries := List (String × Entry)

namespace Entries

/-- Changes the entry of a key, or adds one at the end. -/
def update (key : String) (f : Option Entry → Option Entry) : Entries → Option Entries
  | [] => (f none).map fun entry => [(key, entry)]
  | (k, entry) :: rest =>
    if k == key then (f (some entry)).map fun entry => (k, entry) :: rest
    else (update key f rest).map ((k, entry) :: ·)

/-- Changes the table at a path, of repeated tables the last one. -/
def within (path : List String) (f : Entries → Option Entries) (entries : Entries) : Option Entries :=
  match path with
  | [] => f entries
  | key :: path =>
    entries.update key fun entry =>
      match entry with
      | none => (within path f []).map (.table .passed)
      | some (.table kind inner) => (within path f inner).map (.table kind)
      | some (.tables items) =>
        (within path f (items.getLastD [])).map fun last => .tables (items.dropLast ++ [last])
      | some (.value _) => none

/-- Opens the table of a header in single brackets. -/
def define (path : List String) (entries : Entries) : Option Entries :=
  match path.getLast? with
  | none => none
  | some key =>
    entries.within path.dropLast fun table =>
      table.update key fun entry =>
        match entry with
        | none => some (.table .defined [])
        | some (.table .passed inner) => some (.table .defined inner)
        | some _ => none

/-- Opens another table of a header in double brackets. -/
def append (path : List String) (entries : Entries) : Option Entries :=
  match path.getLast? with
  | none => none
  | some key =>
    entries.within path.dropLast fun table =>
      table.update key fun entry =>
        match entry with
        | none => some (.tables [[]])
        | some (.tables items) => some (.tables (items ++ [[]]))
        | some _ => none

/-- Sets a new key; a dotted key sets it inside tables of dotted keys. -/
def assign (value : Datum) : List String → Entries → Option Entries
  | [], _ => none
  | [key], entries =>
    entries.update key fun entry => if entry.isSome then none else some (.value value)
  | key :: next :: path, entries =>
    entries.update key fun entry =>
      match entry with
      | none => (assign value (next :: path) []).map (.table .dotted)
      | some (.table .dotted inner) => (assign value (next :: path) inner).map (.table .dotted)
      | some (.table .passed inner) =>
        if path.isEmpty then none else (assign value (next :: path) inner).map (.table .passed)
      | some _ => none

end Entries

mutual
/-- The value of an entry. -/
def Entry.datum : Entry → Datum
  | .value d => d
  | .table _ entries => .record (Entry.fields entries)
  | .tables items => .list (Entry.records items)

def Entry.fields : List (String × Entry) → List (Datum × Datum)
  | [] => []
  | (key, entry) :: rest => (.text key, entry.datum) :: Entry.fields rest

def Entry.records : List (List (String × Entry)) → List Datum
  | [] => []
  | entries :: rest => .record (Entry.fields entries) :: Entry.records rest
end

/-- The record that the entries of a table make up. -/
def Entries.datum (entries : Entries) : Datum :=
  .record (Entry.fields entries)

end RouteScaffold.Toml
