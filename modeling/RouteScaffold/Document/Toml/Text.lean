import RouteScaffold.Text.Hex

/-!
Keys and texts of TOML documents, and the blanks and comments between them.
-/

namespace RouteScaffold.Toml

def isBlank (c : Char) : Bool :=
  c == ' ' || c == '\t'

def skipBlanks (s : List Char) : List Char :=
  s.dropWhile isBlank

/-- Characters that may stand on a line, in a comment or in a text. -/
def isPrintable (c : Char) : Bool :=
  c == '\t' || (0x20 ≤ c.toNat && c.toNat != 0x7F)

/-- The line break at the front, and what follows it. -/
def readBreak? : List Char → Option (List Char × List Char)
  | '\n' :: rest => some (['\n'], rest)
  | '\r' :: '\n' :: rest => some (['\r', '\n'], rest)
  | _ => none

/-- Skips a comment up to the end of its line. -/
def skipComment : List Char → List Char
  | '#' :: rest => rest.dropWhile isPrintable
  | s => s

/-- Skips blanks, line breaks and comments. -/
def skipSpace : Nat → List Char → List Char
  | 0, s => s
  | fuel + 1, s =>
    let s := skipComment (skipBlanks s)
    match readBreak? s with
    | some (_, rest) => skipSpace fuel rest
    | none => s

/-- The character of a short escape. -/
def escapeChar? : Char → Option Char
  | 'b' => some (Char.ofNat 0x08)
  | 't' => some '\t'
  | 'n' => some '\n'
  | 'f' => some (Char.ofNat 0x0C)
  | 'r' => some '\r'
  | 'e' => some (Char.ofNat 0x1B)
  | '"' => some '"'
  | '\\' => some '\\'
  | _ => none

/-- The number of digits of an escape by code point. -/
def escapeWidth? : Char → Option Nat
  | 'x' => some 2
  | 'u' => some 4
  | 'U' => some 8
  | _ => none

/-- Reads an escape whose backslash has been read. -/
def readEscape : List Char → Option (Char × List Char)
  | [] => none
  | c :: rest =>
    match escapeWidth? c with
    | some width =>
      (Text.readHex? width rest).bind fun (code, rest) => (Text.char? code).map fun c => (c, rest)
    | none => (escapeChar? c).map fun c => (c, rest)

/-- Reads a text on one line whose opening quote has been read. -/
def readLine (quote : Char) : Nat → List Char → Option (List Char × List Char)
  | 0, _ | _, [] => none
  | fuel + 1, c :: rest =>
    if c == quote then some ([], rest)
    else if quote == '"' && c == '\\' then
      (readEscape rest).bind fun (c, rest) =>
        (readLine quote fuel rest).map fun (more, rest) => (c :: more, rest)
    else if isPrintable c then (readLine quote fuel rest).map fun (more, rest) => (c :: more, rest)
    else none

/-- Skips blanks and line breaks. -/
def skipLines : Nat → List Char → List Char
  | 0, s => s
  | fuel + 1, s =>
    let s := skipBlanks s
    match readBreak? s with
    | some (_, rest) => skipLines fuel rest
    | none => s

/-- Reads a text of many lines whose opening quotes and first line break have been read. It ends with
three quotes, in front of which up to two more belong to the text. -/
def readLines (quote : Char) : Nat → List Char → Option (List Char × List Char)
  | 0, _ | _, [] => none
  | fuel + 1, c :: rest =>
    let quotes := ((c :: rest).takeWhile (· == quote)).length
    if 3 ≤ quotes then
      let inner := min (quotes - 3) 2
      some (List.replicate inner quote, (c :: rest).drop (inner + 3))
    else if quote == '"' && c == '\\' then
      match readBreak? (skipBlanks rest) with
      | some (_, after) => readLines quote fuel (skipLines (after.length + 1) after)
      | none =>
        (readEscape rest).bind fun (c, rest) =>
          (readLines quote fuel rest).map fun (more, rest) => (c :: more, rest)
    else
      match readBreak? (c :: rest) with
      | some (lineBreak, after) =>
        (readLines quote fuel after).map fun (more, rest) => (lineBreak ++ more, rest)
      | none =>
        if isPrintable c then (readLines quote fuel rest).map fun (more, rest) => (c :: more, rest)
        else none

/-- Reads a text in quotes of any kind. -/
def readText (s : List Char) : Option (String × List Char) :=
  match s with
  | [] => none
  | quote :: rest =>
    if quote != '"' && quote != '\x27' then none
    else
      let found :=
        if [quote, quote].isPrefixOf rest then
          let body := rest.drop 2
          readLines quote (s.length + 1) ((readBreak? body).map Prod.snd |>.getD body)
        else readLine quote (s.length + 1) rest
      found.map fun (chars, rest) => (String.ofList chars, rest)

def isBareKeyChar (c : Char) : Bool :=
  c.isAlphanum || c == '_' || c == '-'

/-- Reads one part of a key: a bare word, or a text on one line. -/
def readKeyPart (s : List Char) : Option (String × List Char) :=
  match s with
  | [] => none
  | c :: rest =>
    if c == '"' || c == '\x27' then
      (readLine c (s.length + 1) rest).map fun (chars, rest) => (String.ofList chars, rest)
    else
      match s.takeWhile isBareKeyChar with
      | [] => none
      | word => some (String.ofList word, s.drop word.length)

/-- Reads a key with its parts between dots. -/
def readKey : Nat → List Char → Option (List String × List Char)
  | 0, _ => none
  | fuel + 1, s =>
    (readKeyPart (skipBlanks s)).bind fun (part, rest) =>
      match skipBlanks rest with
      | '.' :: rest => (readKey fuel rest).map fun (parts, rest) => (part :: parts, rest)
      | rest => some ([part], rest)

end RouteScaffold.Toml
