import RouteScaffold.Document.Yaml.Scalar

/-!
A YAML document as a row of tokens.

Indentation becomes explicit: a block collection opens at its first entry and closes before the first
token that stands left of its column. A key on one line is only known as a key when its colon is met;
the tokens that open it are then put in front of it.
-/

namespace RouteScaffold.Yaml

inductive Token where
  | version (major minor : Nat)
  | tagHandle (handle uri : String)
  | documentStart
  | documentEnd
  | blockSequence
  | blockMapping
  | blockEnd
  | flowSequence
  | flowSequenceEnd
  | flowMapping
  | flowMappingEnd
  | entry
  | comma
  | key
  | value
  | alias (name : String)
  | anchor (name : String)
  | tag (handle suffix : String)
  | scalar (text : String) (plain : Bool)
  deriving DecidableEq, Repr

/-! ### Directives, anchors and tags -/

/-- Reads a number of at most nine digits. -/
def readVersionNumber (cursor : Cursor) : Option (Nat × Cursor) :=
  let (digits, next) := cursor.span Char.isDigit
  if digits.isEmpty || 9 < digits.length then none
  else some (digits.foldl (fun n c => n * 10 + (c.toNat - '0'.toNat)) 0, next)

def readVersion (cursor : Cursor) : Option (Token × Cursor) :=
  (readVersionNumber (cursor.skipWhile isBlank)).bind fun (major, next) =>
    if next.peek? == some '.' then
      (readVersionNumber (next.advance 1)).map fun (minor, next) => (.version major minor, next)
    else none

/-- Reads a tag handle: `!`, or a name between two of them. -/
def readTagHandle (directive : Bool) (cursor : Cursor) : Option (List Char × Cursor) :=
  if cursor.peek? != some '!' then none
  else
    let (name, next) := (cursor.advance 1).span isWordChar
    if next.peek? == some '!' then some ('!' :: name ++ ['!'], next.advance 1)
    else if directive && !name.isEmpty then none
    else some ('!' :: name, next)

def isUriChar (c : Char) : Bool :=
  isWordChar c || ";/?:@&=+$.!~*\x27()".toList.contains c

/-- The octets of a row of escapes with two digits each. -/
def readUriEscapes : List Char → Option (List UInt8 × List Char)
  | '%' :: a :: b :: rest =>
    (Text.hexNumber? [a, b]).bind fun octet =>
      (readUriEscapes rest).map fun (octets, rest) => (octet.toUInt8 :: octets, rest)
  | '%' :: _ => none
  | rest => some ([], rest)

/-- Reads the characters of a tag, with escapes for any octets of a text. -/
def readUri (verbatim : Bool) : Nat → List Char → Option (List Char × List Char)
  | 0, _ => none
  | _ + 1, [] => some ([], [])
  | fuel + 1, c :: rest =>
    if c == '%' then
      (readUriEscapes (c :: rest)).bind fun (octets, rest) =>
        (String.fromUTF8? ⟨octets.toArray⟩).bind fun text =>
          (readUri verbatim fuel rest).map fun (more, rest) => (text.toList ++ more, rest)
    else if isUriChar c || (verbatim && (c == ',' || c == '[' || c == ']')) then
      (readUri verbatim fuel rest).map fun (more, rest) => (c :: more, rest)
    else some ([], c :: rest)

def Cursor.readUri (cursor : Cursor) (verbatim : Bool) : Option (List Char × Cursor) :=
  (Yaml.readUri verbatim (cursor.rest.length + 1) cursor.rest).map fun (uri, rest) =>
    (uri, cursor.advance (cursor.rest.length - rest.length))

def readTagDirective (cursor : Cursor) : Option (Token × Cursor) :=
  (readTagHandle true (cursor.skipWhile isBlank)).bind fun (handle, next) =>
    if !next.isAt 0 isBlank then none
    else
      ((next.skipWhile isBlank).readUri true).bind fun (uri, next) =>
        if uri.isEmpty || !next.wordEndsAt 0 then none
        else some (.tagHandle (String.ofList handle) (String.ofList uri), next)

/-- Reads a directive up to the end of its line. -/
def readDirective (cursor : Cursor) : Option (Token × Cursor) :=
  let (name, next) := (cursor.advance 1).span isWordChar
  if !next.wordEndsAt 0 then none
  else
    let directive :=
      if name == "YAML".toList then readVersion next
      else if name == "TAG".toList then readTagDirective next
      else none
    directive.bind fun (token, next) =>
      let next := (next.skipWhile isBlank).skipComment
      if next.lineEndsAt 0 then some (token, next.skipBreak) else none

/-- Reads the name of an anchor or an alias. -/
def readAnchorName (cursor : Cursor) : Option (String × Cursor) :=
  let (name, next) := (cursor.advance 1).span isWordChar
  if name.isEmpty || !(next.wordEndsAt 0 || next.isAt 0 ("?:,]\x7d%@`".toList.contains ·)) then none
  else some (String.ofList name, next)

/-- The handle and the suffix of a tag. -/
def readTagName (cursor : Cursor) : Option (String × String × Cursor) :=
  if cursor.isAt 1 (· == '<') then
    ((cursor.advance 2).readUri true).bind fun (uri, next) =>
      if uri.isEmpty || next.peek? != some '>' then none
      else some ("", String.ofList uri, next.advance 1)
  else
    (readTagHandle false cursor).bind fun (handle, next) =>
      if 1 < handle.length && handle.getLast? == some '!' then
        (next.readUri false).bind fun (uri, next) =>
          if uri.isEmpty then none else some (String.ofList handle, String.ofList uri, next)
      else
        (next.readUri false).map fun (uri, next) =>
          match handle.drop 1 ++ uri with
          | [] => ("", "!", next)
          | suffix => ("!", String.ofList suffix, next)

def readTag (flow : Bool) (cursor : Cursor) : Option (Token × Cursor) :=
  (readTagName cursor).bind fun (handle, suffix, next) =>
    if next.wordEndsAt 0 || (flow && next.peek? == some ',') then some (.tag handle suffix, next)
    else none

/-! ### The lexer -/

/-- A token that may turn out to begin a key. -/
structure KeyCandidate where
  /-- The number of tokens before it. -/
  position : Nat
  /-- It begins a line of a block mapping, so it has to be a key. -/
  required : Bool
  line : Nat
  column : Nat
  index : Nat
  deriving DecidableEq, Repr

structure Lexer where
  cursor : Cursor
  /-- The tokens read so far, the newest first. -/
  tokens : List Token := []
  count : Nat := 0
  /-- The column of the innermost block collection. -/
  indent : Int := -1
  /-- The columns of the collections around it. -/
  outer : List Int := []
  /-- A key may begin here. -/
  keyAllowed : Bool := true
  /-- The candidate of the innermost bracket. -/
  candidate : Option KeyCandidate := none
  /-- The candidates of the brackets around it, one for each. -/
  enclosing : List (Option KeyCandidate) := []
  deriving Repr

namespace Lexer

/-- Whether this place stands inside brackets. -/
def inFlow (lexer : Lexer) : Bool := !lexer.enclosing.isEmpty

def push (lexer : Lexer) (token : Token) : Lexer :=
  { lexer with tokens := token :: lexer.tokens, count := lexer.count + 1 }

/-- Puts a token in front of those from `position` on. -/
def insertAt (lexer : Lexer) (position : Nat) (token : Token) : Lexer :=
  let newer := lexer.count - position
  { lexer with
    tokens := lexer.tokens.take newer ++ token :: lexer.tokens.drop newer
    count := lexer.count + 1 }

/-- Moves on by `count` characters. -/
def advance (lexer : Lexer) (count : Nat) : Lexer :=
  { lexer with cursor := lexer.cursor.advance count }

/-- Opens a block collection at `column`, if that lies right of the innermost one. -/
def openBlock (lexer : Lexer) (column position : Nat) (token : Token) : Lexer :=
  if lexer.inFlow || (column : Int) ≤ lexer.indent then lexer
  else
    { lexer.insertAt position token with
      indent := column
      outer := lexer.indent :: lexer.outer }

/-- Closes the block collections right of `column`. -/
def closeBlocks (column : Int) (lexer : Lexer) : Lexer :=
  if lexer.inFlow then lexer
  else
    let columns := (lexer.indent :: lexer.outer).takeWhile (column < ·)
    let left := (lexer.indent :: lexer.outer).dropWhile (column < ·)
    { lexer with
      tokens := columns.map (fun _ => Token.blockEnd) ++ lexer.tokens
      count := lexer.count + columns.length
      indent := left.headD (-1)
      outer := left.drop 1 }

/-- Gives up the candidate, unless it has to be a key. -/
def dropCandidate (lexer : Lexer) : Option Lexer :=
  match lexer.candidate with
  | some candidate => if candidate.required then none else some { lexer with candidate := none }
  | none => some lexer

/-- Makes this place the candidate, if a key may begin here. -/
def markCandidate (lexer : Lexer) : Option Lexer :=
  if lexer.keyAllowed then
    lexer.dropCandidate.map fun lexer =>
      { lexer with
        candidate := some
          { position := lexer.count
            required := !lexer.inFlow && lexer.indent == lexer.cursor.column
            line := lexer.cursor.line
            column := lexer.cursor.column
            index := lexer.cursor.index } }
  else some lexer

/-- The candidate if it may still be a key: it stands on this line and not far back. -/
def validCandidate (lexer : Lexer) : Option (Option KeyCandidate) :=
  match lexer.candidate with
  | none => some none
  | some candidate =>
    if candidate.line < lexer.cursor.line || candidate.index + 1024 < lexer.cursor.index then
      if candidate.required then none else some none
    else some (some candidate)

/-- Skips blanks, comments and line breaks. Tabs may not indent a place where a key may begin. -/
def skipSpace : Nat → Lexer → Lexer
  | 0, lexer => lexer
  | fuel + 1, lexer =>
    let isSpace (c : Char) : Bool := c == ' ' || (c == '\t' && (lexer.inFlow || !lexer.keyAllowed))
    let cursor := lexer.cursor
    let cursor :=
      if cursor.column == 0 && cursor.isAt 0 (·.toNat == 0xFEFF) then cursor.advance 1 else cursor
    let cursor := (cursor.skipWhile isSpace).skipComment
    match cursor.readBreak? with
    | some (_, next) =>
      skipSpace fuel { lexer with cursor := next, keyAllowed := lexer.keyAllowed || !lexer.inFlow }
    | none => { lexer with cursor }

/-- Ends all block collections in front of a mark or the end of the text. -/
def closeAll (lexer : Lexer) : Option Lexer :=
  (lexer.closeBlocks (-1)).dropCandidate.map fun lexer => { lexer with keyAllowed := false }

def readDirectiveToken (lexer : Lexer) : Option Lexer :=
  lexer.closeAll.bind fun lexer =>
    (readDirective lexer.cursor).map fun (token, cursor) => { lexer.push token with cursor }

def readDocumentMark (lexer : Lexer) (token : Token) : Option Lexer :=
  lexer.closeAll.map fun lexer => (lexer.push token).advance 3

/-- Reads an opening bracket. -/
def openFlow (lexer : Lexer) (token : Token) : Option Lexer :=
  lexer.markCandidate.map fun lexer =>
    { (lexer.push token).advance 1 with
      candidate := none
      enclosing := lexer.candidate :: lexer.enclosing
      keyAllowed := true }

/-- Reads a closing bracket. -/
def closeFlow (lexer : Lexer) (token : Token) : Option Lexer :=
  lexer.dropCandidate.map fun lexer =>
    { (lexer.push token).advance 1 with
      candidate := lexer.enclosing.headD none
      enclosing := lexer.enclosing.drop 1
      keyAllowed := false }

def readComma (lexer : Lexer) : Option Lexer :=
  lexer.dropCandidate.map fun lexer => { (lexer.push .comma).advance 1 with keyAllowed := true }

/-- Reads the dash of a sequence entry. -/
def readEntry (lexer : Lexer) : Option Lexer :=
  if !lexer.inFlow && !lexer.keyAllowed then none
  else
    (lexer.openBlock lexer.cursor.column lexer.count .blockSequence).dropCandidate.map fun lexer =>
      { (lexer.push .entry).advance 1 with keyAllowed := true }

/-- Reads the question mark of an explicit key. -/
def readKey (lexer : Lexer) : Option Lexer :=
  if !lexer.inFlow && !lexer.keyAllowed then none
  else
    (lexer.openBlock lexer.cursor.column lexer.count .blockMapping).dropCandidate.map fun lexer =>
      { (lexer.push .key).advance 1 with keyAllowed := !lexer.inFlow }

/-- Reads a colon; the candidate in front of it becomes a key. -/
def readValue (lexer : Lexer) : Option Lexer :=
  lexer.validCandidate.bind fun candidate =>
    match candidate with
    | some key =>
      let lexer := lexer.insertAt key.position .key
      let lexer := lexer.openBlock key.column key.position .blockMapping
      some { (lexer.push .value).advance 1 with candidate := none, keyAllowed := false }
    | none =>
      if !lexer.inFlow && !lexer.keyAllowed then none
      else
        let lexer := lexer.openBlock lexer.cursor.column lexer.count .blockMapping
        some { (lexer.push .value).advance 1 with candidate := none, keyAllowed := !lexer.inFlow }

/-- Reads a token that may begin a key. -/
def readInline (lexer : Lexer) (read : Cursor → Option (Token × Cursor)) : Option Lexer :=
  lexer.markCandidate.bind fun lexer =>
    (read lexer.cursor).map fun (token, cursor) =>
      { lexer.push token with cursor, keyAllowed := false }

def readBlockScalar (lexer : Lexer) (folded : Bool) : Option Lexer :=
  lexer.dropCandidate.bind fun lexer =>
    (readBlock folded lexer.indent (lexer.cursor.advance 1)).map fun (chars, cursor) =>
      { lexer.push (.scalar (String.ofList chars) false) with cursor, keyAllowed := true }

def readQuotedToken (quote : Char) (cursor : Cursor) : Option (Token × Cursor) :=
  (readQuoted quote (cursor.rest.length + 1) (cursor.advance 1)).map fun (chars, next) =>
    (.scalar (String.ofList chars) false, next)

def readPlainScalar (lexer : Lexer) : Option Lexer :=
  lexer.markCandidate.bind fun lexer =>
    let fuel := lexer.cursor.rest.length + 1
    (readPlain lexer.inFlow (lexer.indent + 1).toNat fuel lexer.cursor).map fun (text, cursor) =>
      { lexer.push (.scalar (String.ofList text.chars) true) with cursor, keyAllowed := text.endsLine }

/-- Characters that cannot begin a plain text by themselves. -/
def isIndicator (c : Char) : Bool :=
  isBlank c || "-?:,[]\x7b\x7d#&*!|>\x27\x22%@`".toList.contains c

/-- Reads the token that begins with `c`. -/
def readToken (lexer : Lexer) (c : Char) : Option Lexer :=
  let cursor := lexer.cursor
  let alone := cursor.wordEndsAt 1
  if c == '%' && cursor.column == 0 then lexer.readDirectiveToken
  else if cursor.atMark '-' then lexer.readDocumentMark .documentStart
  else if cursor.atMark '.' then lexer.readDocumentMark .documentEnd
  else if c == '[' then lexer.openFlow .flowSequence
  else if c == '{' then lexer.openFlow .flowMapping
  else if c == ']' then lexer.closeFlow .flowSequenceEnd
  else if c == '}' then lexer.closeFlow .flowMappingEnd
  else if c == ',' then lexer.readComma
  else if c == '-' && alone then lexer.readEntry
  else if c == '?' && (lexer.inFlow || alone) then lexer.readKey
  else if c == ':' && (lexer.inFlow || alone) then lexer.readValue
  else if c == '*' then
    lexer.readInline fun cursor => (readAnchorName cursor).map fun (name, next) => (.alias name, next)
  else if c == '&' then
    lexer.readInline fun cursor => (readAnchorName cursor).map fun (name, next) => (.anchor name, next)
  else if c == '!' then lexer.readInline (readTag lexer.inFlow)
  else if c == '|' && !lexer.inFlow then lexer.readBlockScalar false
  else if c == '>' && !lexer.inFlow then lexer.readBlockScalar true
  else if c == '\x27' || c == '"' then lexer.readInline (readQuotedToken c)
  else if !isIndicator c || (c == '-' && !cursor.isAt 1 isBlank) ||
      (!lexer.inFlow && (c == '?' || c == ':') && !alone) then lexer.readPlainScalar
  else none

/-- The state after the end of the text: everything is closed. -/
def finish (lexer : Lexer) : Option Lexer :=
  lexer.closeAll

def run : Nat → Lexer → Option Lexer
  | 0, _ => none
  | fuel + 1, lexer =>
    let lexer := skipSpace (lexer.cursor.rest.length + 1) lexer
    match lexer.cursor.peek? with
    | none => lexer.finish
    | some c =>
      ((lexer.closeBlocks lexer.cursor.column).readToken c).bind fun lexer => run fuel lexer

end Lexer

/-- The tokens of a document. -/
def Token.ofChars? (source : List Char) : Option (List Token) :=
  if !source.all isPrintable then none
  else
    let text := if source.head?.any (·.toNat == 0xFEFF) then source.drop 1 else source
    (Lexer.run (text.length + 1) { cursor := { rest := text } }).map fun lexer => lexer.tokens.reverse

end RouteScaffold.Yaml
