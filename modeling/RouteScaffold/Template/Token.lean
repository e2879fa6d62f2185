import RouteScaffold.Text.Hex

/-!
The tokens inside the tags of a template.
-/

namespace RouteScaffold.Template

inductive Token where
  | ident (name : String)
  | str (s : String)
  | int (n : Nat)
  | decimal (text : String)
  /-- An operator or a bracket. -/
  | sym (text : String)
  deriving DecidableEq, Repr

/-- The two kinds of tags that hold tokens: one prints a value, the other is a statement. -/
inductive TagKind where
  | output
  | statement
  deriving DecidableEq, Repr

/-- What a mark beside a tag says about the blanks around it. -/
inductive BlankMark where
  | plain
  | keep
  | remove
  deriving DecidableEq, Repr

def BlankMark.ofChar? : Char → Option BlankMark
  | '-' => some .remove
  | '+' => some .keep
  | _ => none

/-- Reads a blank mark, if there is one. -/
def BlankMark.read : List Char → BlankMark × List Char
  | [] => (.plain, [])
  | c :: rest =>
    match ofChar? c with
    | some mark => (mark, rest)
    | none => (.plain, c :: rest)

def isTagBlank (c : Char) : Bool :=
  c == ' ' || c == '\t' || c == '\n' || c == '\r' || c == '\x0c'

def TagKind.closing : TagKind → List Char
  | .output => ['}', '}']
  | .statement => ['%', '}']

/-- The end of a tag, with or without a blank mark, and what follows it. -/
def TagKind.close? (kind : TagKind) (s : List Char) : Option (BlankMark × List Char) :=
  let (mark, rest) := BlankMark.read s
  if kind.closing.isPrefixOf rest then some (mark, rest.drop 2) else none

def isIdentStart (c : Char) : Bool := c.isAlpha || c == '_'

def isIdentChar (c : Char) : Bool := c.isAlphanum || c == '_'

/-- The body of a quoted text and what follows its closing quote. -/
def readQuoted (quote : Char) : List Char → Option (List Char × List Char)
  | [] => none
  | '\\' :: c :: rest =>
    (readQuoted quote rest).bind fun (body, after) =>
      match c with
      | 'n' => some ('\n' :: body, after)
      | 't' => some ('\t' :: body, after)
      | 'r' => some ('\r' :: body, after)
      | '\\' | '"' | '\x27' | '/' => some (c :: body, after)
      | _ => none
  | c :: rest =>
    if c == quote then some ([], rest)
    else (readQuoted quote rest).map fun (body, after) => (c :: body, after)

/-- Operators of two characters, then those of one. -/
def operators : List (List Char) :=
  [['/', '/'], ['*', '*'], ['=', '='], ['!', '='], ['>', '='], ['<', '=']] ++
    ['+', '-', '*', '/', '%', '~', '|', '(', ')', '[', ']', '{', '}', '.', ',', ':', '=', '<', '>'].map
      fun c => [c]

def digitsValue (digits : List Char) : Nat :=
  digits.foldl (fun n c => if c == '_' then n else n * 10 + (c.toNat - '0'.toNat)) 0

/-- Reads a number. After a dot a number has no fraction, so that `a.0.b` is a chain of fields. -/
def readNumber (afterDot : Bool) (s : List Char) : Token × List Char :=
  let isDigit (c : Char) : Bool := c.isDigit || c == '_'
  let whole := s.takeWhile isDigit
  let rest := s.dropWhile isDigit
  match rest with
  | '.' :: c :: more =>
    if c.isDigit && !afterDot then
      let fraction := (c :: more).takeWhile isDigit
      (.decimal (String.ofList (whole ++ '.' :: fraction)), (c :: more).dropWhile isDigit)
    else (.int (digitsValue whole), rest)
  | _ => (.int (digitsValue whole), rest)

/-- Reads one token. -/
def Token.read (afterDot : Bool) : List Char → Option (Token × List Char)
  | [] => none
  | c :: rest =>
    if isIdentStart c then
      some (.ident (String.ofList ((c :: rest).takeWhile isIdentChar)), (c :: rest).dropWhile isIdentChar)
    else if c.isDigit then some (readNumber afterDot (c :: rest))
    else if c == '"' || c == '\x27' then
      (readQuoted c rest).map fun (body, after) => (.str (String.ofList body), after)
    else
      (operators.find? (·.isPrefixOf (c :: rest))).map fun op =>
        (.sym (String.ofList op), (c :: rest).drop op.length)

/-- How a token changes the number of open brackets. -/
def Token.depth (token : Token) (depth : Nat) : Nat :=
  match token with
  | .sym "(" | .sym "[" | .sym "\x7b" => depth + 1
  | .sym ")" | .sym "]" | .sym "\x7d" => depth - 1
  | _ => depth

/-- The tokens up to the end of the tag, the mark on that end and what follows; a tag ends only
outside all brackets. -/
def Token.readTag (kind : TagKind) (depth : Nat) (afterDot : Bool) :
    Nat → List Char → Option (List Token × BlankMark × List Char)
  | 0, _ => none
  | fuel + 1, s =>
    let s := s.dropWhile isTagBlank
    match if depth = 0 then kind.close? s else none with
    | some (mark, rest) => some ([], mark, rest)
    | none =>
      (Token.read afterDot s).bind fun (token, rest) =>
        (Token.readTag kind (token.depth depth) (token == .sym ".") fuel rest).map
          fun (tokens, mark, after) => (token :: tokens, mark, after)

end RouteScaffold.Template
