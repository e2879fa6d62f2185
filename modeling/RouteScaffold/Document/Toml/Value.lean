import RouteScaffold.Document.Toml.Number
import RouteScaffold.Document.Toml.Table
import RouteScaffold.Document.Toml.Text

/-!
The values of a TOML document.
-/

namespace RouteScaffold.Toml

/-- Characters of values without quotes. -/
def isBareChar (c : Char) : Bool :=
  c.isAlphanum || c == '_' || c == '-' || c == '+' || c == '.' || c == ':'

/-- The value that a bare word writes. -/
def bareValue? (word : List Char) : Option Datum :=
  if word == "true".toList then some (.bool true)
  else if word == "false".toList then some (.bool false)
  else if isInteger word || isDecimal word then some (.number (String.ofList word))
  else if isDateTime word then some (.date (String.ofList word))
  else none

/-- Reads a bare word; one blank may stand between a date and a time. -/
def readBare (s : List Char) : Option (Datum × List Char) :=
  let word := s.takeWhile isBareChar
  let rest := s.dropWhile isBareChar
  match rest with
  | ' ' :: c :: more =>
    if (readDate word == some []) && c.isDigit then
      let time := (c :: more).takeWhile isBareChar
      (bareValue? (word ++ ' ' :: time)).map fun d => (d, (c :: more).dropWhile isBareChar)
    else (bareValue? word).map fun d => (d, rest)
  | _ => (bareValue? word).map fun d => (d, rest)

mutual
/-- Reads a value, of at most `fuel` parts. -/
def readValue : Nat → List Char → Option (Datum × List Char)
  | 0, _ => none
  | fuel + 1, s =>
    match s with
    | '[' :: rest => (readItems fuel rest).map fun (items, rest) => (.list items, rest)
    | '{' :: rest =>
      (readInline fuel [] rest).map fun (entries, rest) => (entries.datum, rest)
    | c :: _ =>
      if c == '"' || c == '\x27' then (readText s).map fun (text, rest) => (.text text, rest)
      else readBare s
    | [] => none

/-- Reads the items of an array up to its closing bracket. -/
def readItems : Nat → List Char → Option (List Datum × List Char)
  | 0, _ => none
  | fuel + 1, s =>
    match skipSpace (s.length + 1) s with
    | ']' :: rest => some ([], rest)
    | s =>
      (readValue fuel s).bind fun (item, rest) =>
        match skipSpace (rest.length + 1) rest with
        | ']' :: rest => some ([item], rest)
        | ',' :: rest => (readItems fuel rest).map fun (items, rest) => (item :: items, rest)
        | _ => none

/-- Reads the entries of a table in braces up to its closing brace. -/
def readInline : Nat → Entries → List Char → Option (Entries × List Char)
  | 0, _, _ => none
  | fuel + 1, entries, s =>
    match skipSpace (s.length + 1) s with
    | '}' :: rest => some (entries, rest)
    | s =>
      (readAssignment fuel s).bind fun (path, value, rest) =>
        (entries.assign value path).bind fun entries =>
          match skipSpace (rest.length + 1) rest with
          | '}' :: rest => some (entries, rest)
          | ',' :: rest => readInline fuel entries rest
          | _ => none

/-- Reads a key, an equals sign and a value. -/
def readAssignment : Nat → List Char → Option (List String × Datum × List Char)
  | 0, _ => none
  | fuel + 1, s =>
    (readKey (s.length + 1) s).bind fun (path, rest) =>
      match rest with
      | '=' :: rest =>
        (readValue fuel (skipBlanks rest)).map fun (value, rest) => (path, value, rest)
      | _ => none
end

end RouteScaffold.Toml
