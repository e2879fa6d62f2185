import RouteScaffold.Document.Toml.Value

/-!
A whole TOML document: headers and assignments, one to a line.
-/

namespace RouteScaffold.Toml

/-- What has been read: the root table and the path of the table that assignments go to. -/
structure Draft where
  root : Entries := []
  path : List String := []

/-- Skips the rest of a line, where only a comment may stand. -/
def readLineEnd (s : List Char) : Option (List Char) :=
  match skipComment (skipBlanks s) with
  | [] => some []
  | s => (readBreak? s).map Prod.snd

/-- Reads a header in double brackets whose opening has been read. -/
def Draft.readRepeated (draft : Draft) (s : List Char) : Option (Draft × List Char) :=
  (readKey (s.length + 1) s).bind fun (path, rest) =>
    match rest with
    | ']' :: ']' :: rest => (draft.root.append path).map fun root => ({ root, path }, rest)
    | _ => none

/-- Reads a header in single brackets whose opening has been read. -/
def Draft.readHeader (draft : Draft) (s : List Char) : Option (Draft × List Char) :=
  (readKey (s.length + 1) s).bind fun (path, rest) =>
    match rest with
    | ']' :: rest => (draft.root.define path).map fun root => ({ root, path }, rest)
    | _ => none

def Draft.readAssignment (draft : Draft) (s : List Char) : Option (Draft × List Char) :=
  (Toml.readAssignment (2 * s.length + 4) s).bind fun (path, value, rest) =>
    (draft.root.within draft.path (Entries.assign value path)).map fun root =>
      ({ draft with root }, rest)

/-- Reads lines up to the end, at most `fuel` of them. -/
def Draft.readLines : Nat → Draft → List Char → Option Draft
  | 0, _, _ => none
  | fuel + 1, draft, s =>
    match skipSpace (s.length + 1) s with
    | [] => some draft
    | s =>
      let line :=
        match s with
        | '[' :: '[' :: rest => draft.readRepeated rest
        | '[' :: rest => draft.readHeader rest
        | s => draft.readAssignment s
      line.bind fun (draft, rest) =>
        (readLineEnd rest).bind fun rest => readLines fuel draft rest

/-- The record of a document. -/
def parse? (source : String) : Option Datum :=
  let s := source.toList
  let s := if s.head?.any (·.toNat == 0xFEFF) then s.drop 1 else s
  (Draft.readLines (s.length + 1) {} s).map fun draft => draft.root.datum

end RouteScaffold.Toml
