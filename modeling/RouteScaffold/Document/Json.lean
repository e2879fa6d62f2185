import RouteScaffold.Document.Datum
import RouteScaffold.Text.Hex

/-!
Documents in JSON: reading and writing.

Reading is strict: no comments, no trailing commas, no control characters inside a text and nothing
but blanks after the value.
-/

namespace RouteScaffold.Json

def isBlank (c : Char) : Bool :=
  c == ' ' || c == '\t' || c == '\n' || c == '\r'

def skipBlanks (s : List Char) : List Char :=
  s.dropWhile isBlank

/-- Drops `c` from the front. -/
def expect (c : Char) : List Char → Option (List Char)
  | d :: rest => if c == d then some rest else none
  | [] => none

/-- The code points of a text with its surrogate pairs joined; a lone surrogate has none. -/
def joinSurrogates : List Nat → Option (List Char)
  | [] => some []
  | unit :: rest =>
    if 0xD800 ≤ unit ∧ unit < 0xDC00 then
      match rest with
      | [] => none
      | low :: rest =>
        if 0xDC00 ≤ low ∧ low < 0xE000 then
          (joinSurrogates rest).map
            (Char.ofNat (0x10000 + (unit - 0xD800) * 0x400 + (low - 0xDC00)) :: ·)
        else none
    else if 0xDC00 ≤ unit ∧ unit < 0xE000 then none
    else (joinSurrogates rest).map (Char.ofNat unit :: ·)

/-- The code unit of a short escape. -/
def escapeUnit? : Char → Option Nat
  | '"' => some 0x22
  | '\\' => some 0x5C
  | '/' => some 0x2F
  | 'b' => some 0x08
  | 'f' => some 0x0C
  | 'n' => some 0x0A
  | 'r' => some 0x0D
  | 't' => some 0x09
  | _ => none

/-- The code units of a text up to its closing quote, and what follows it. -/
def readUnits : List Char → Option (List Nat × List Char)
  | [] => none
  | '"' :: rest => some ([], rest)
  | '\\' :: 'u' :: a :: b :: c :: d :: rest =>
    (Text.hexNumber? [a, b, c, d]).bind fun unit =>
      (readUnits rest).map fun (units, after) => (unit :: units, after)
  | '\\' :: c :: rest =>
    (escapeUnit? c).bind fun unit =>
      (readUnits rest).map fun (units, after) => (unit :: units, after)
  | c :: rest =>
    if c.toNat < 0x20 || c == '\\' then none
    else (readUnits rest).map fun (units, after) => (c.toNat :: units, after)

/-- Reads a text whose opening quote has been read. -/
def readText (s : List Char) : Option (Datum × List Char) :=
  (readUnits s).map fun (units, rest) =>
    match joinSurrogates units with
    | some chars => (.text (String.ofList chars), rest)
    | none => (.unreadable, rest)

/-- Reads at least one digit. -/
def readDigits (s : List Char) : Option (List Char × List Char) :=
  match s.takeWhile Char.isDigit with
  | [] => none
  | digits => some (digits, s.dropWhile Char.isDigit)

/-- The digits of a whole number; only zero itself begins with a zero. -/
def readWhole : List Char → Option (List Char × List Char)
  | '0' :: rest => some (['0'], rest)
  | s => readDigits s

def readFraction : List Char → Option (List Char × List Char)
  | '.' :: rest => (readDigits rest).map fun (digits, rest) => ('.' :: digits, rest)
  | s => some ([], s)

def readExponent : List Char → Option (List Char × List Char)
  | c :: rest =>
    if c == 'e' || c == 'E' then
      let (sign, rest) :=
        match rest with
        | '+' :: more => (['+'], more)
        | '-' :: more => (['-'], more)
        | _ => ([], rest)
      (readDigits rest).map fun (digits, rest) => (c :: sign ++ digits, rest)
    else some ([], c :: rest)
  | [] => some ([], [])

def readUnsigned (s : List Char) : Option (List Char × List Char) := do
  let (whole, s) ← readWhole s
  let (fraction, s) ← readFraction s
  let (exponent, s) ← readExponent s
  some (whole ++ fraction ++ exponent, s)

def readNumber (s : List Char) : Option (Datum × List Char) :=
  match s with
  | '-' :: rest =>
    (readUnsigned rest).map fun (written, rest) => (.number (String.ofList ('-' :: written)), rest)
  | s => (readUnsigned s).map fun (written, rest) => (.number (String.ofList written), rest)

mutual
/-- Reads a value, of at most `fuel` parts. -/
def readValue : Nat → List Char → Option (Datum × List Char)
  | 0, _ => none
  | fuel + 1, s =>
    match skipBlanks s with
    | 'n' :: 'u' :: 'l' :: 'l' :: rest => some (.null, rest)
    | 't' :: 'r' :: 'u' :: 'e' :: rest => some (.bool true, rest)
    | 'f' :: 'a' :: 'l' :: 's' :: 'e' :: rest => some (.bool false, rest)
    | '"' :: rest => readText rest
    | '[' :: rest =>
      match expect ']' (skipBlanks rest) with
      | some rest => some (.list [], rest)
      | none => (readItems fuel rest).map fun (items, rest) => (.list items, rest)
    | '{' :: rest =>
      match expect '}' (skipBlanks rest) with
      | some rest => some (.record [], rest)
      | none => (readFields fuel rest).map fun (fields, rest) => (.record fields, rest)
    | s => readNumber s

/-- Reads the items of a list up to its closing bracket. -/
def readItems : Nat → List Char → Option (List Datum × List Char)
  | 0, _ => none
  | fuel + 1, s =>
    (readValue fuel s).bind fun (item, rest) =>
      match skipBlanks rest with
      | ']' :: rest => some ([item], rest)
      | ',' :: rest => (readItems fuel rest).map fun (items, rest) => (item :: items, rest)
      | _ => none

/-- Reads the fields of a record up to its closing bracket. -/
def readFields : Nat → List Char → Option (List (Datum × Datum) × List Char)
  | 0, _ => none
  | fuel + 1, s =>
    (expect '"' (skipBlanks s)).bind fun s =>
      (readText s).bind fun (name, s) =>
        (expect ':' (skipBlanks s)).bind fun s =>
          (readValue fuel s).bind fun (value, rest) =>
            match skipBlanks rest with
            | '}' :: rest => some ([(name, value)], rest)
            | ',' :: rest =>
              (readFields fuel rest).map fun (fields, rest) => ((name, value) :: fields, rest)
            | _ => none
end

/-- The value of a document. -/
def parse? (source : String) : Option Datum :=
  let s := source.toList
  (readValue (s.length + 1) s).bind fun (value, rest) =>
    if (skipBlanks rest).isEmpty then some value else none

/-- A character as it is written inside a text. -/
def escapeChar (c : Char) : List Char :=
  if c == '"' then ['\\', '"']
  else if c == '\\' then ['\\', '\\']
  else if c == '\n' then ['\\', 'n']
  else if c == '\r' then ['\\', 'r']
  else if c == '\t' then ['\\', 't']
  else if c.toNat == 0x08 then ['\\', 'b']
  else if c.toNat == 0x0C then ['\\', 'f']
  else if c.toNat < 0x20 then
    ['\\', 'u', '0', '0', Nat.digitChar (c.toNat / 16), Nat.digitChar (c.toNat % 16)]
  else [c]

def quote (s : String) : String :=
  String.ofList (['"'] ++ s.toList.flatMap escapeChar ++ ['"'])

mutual
/-- The shortest text of a value, without blanks. -/
def write : Datum → String
  | .null | .unreadable => "null"
  | .bool b => if b then "true" else "false"
  | .number written => written
  | .text s | .bare s _ | .date s => quote s
  | .list items => "[" ++ ",".intercalate (writeItems items) ++ "]"
  | .record fields => "\x7b" ++ ",".intercalate (writeFields fields) ++ "\x7d"

def writeItems : List Datum → List String
  | [] => []
  | item :: rest => write item :: writeItems rest

def writeFields : List (Datum × Datum) → List String
  | [] => []
  | (name, value) :: rest => (write name ++ ":" ++ write value) :: writeFields rest
end

end RouteScaffold.Json
