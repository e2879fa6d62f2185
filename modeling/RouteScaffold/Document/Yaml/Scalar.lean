import RouteScaffold.Document.Yaml.Cursor
import RouteScaffold.Text.Hex

/-!
The written forms of YAML texts: plain, quoted and block.

In plain and quoted texts one line break between two words is a space, and of several the first is
dropped. In block texts the lines stand as they are or, when folded, lines that begin with no blank
are joined in the same way.
-/

namespace RouteScaffold.Yaml

/-- What stands between two words: blanks, or line breaks with the blanks around them dropped. -/
structure Gap where
  blanks : List Char := []
  breaks : List (List Char) := []
  deriving DecidableEq, Repr

namespace Gap

def isEmpty (gap : Gap) : Bool := gap.blanks.isEmpty && gap.breaks.isEmpty

/-- What a gap counts as inside a text. -/
def text (gap : Gap) : List Char :=
  match gap.breaks with
  | [] => gap.blanks
  | ['\n'] :: [] => [' ']
  | ['\n'] :: more => more.flatten
  | breaks => breaks.flatten

/-- Reads line breaks with the blanks after each; no tab may stand left of column `indent`. -/
def readBreaks (indent : Nat) : Nat → Cursor → Option (List (List Char) × Cursor)
  | 0, _ => none
  | fuel + 1, cursor =>
    match cursor.readBreak? with
    | none => some ([], cursor)
    | some (lineBreak, next) =>
      let (blanks, next) := next.span isBlank
      if (blanks.take indent).contains '\t' then none
      else (readBreaks indent fuel next).map fun (breaks, last) => (lineBreak :: breaks, last)

def read (indent : Nat) (cursor : Cursor) : Option (Gap × Cursor) :=
  let (blanks, cursor) := cursor.span isBlank
  (readBreaks indent (cursor.rest.length + 1) cursor).map fun (breaks, last) =>
    ({ blanks := if breaks.isEmpty then blanks else [], breaks }, last)

end Gap

/-! ### Plain texts -/

/-- Characters that end a plain text inside brackets. -/
def isFlowMark (c : Char) : Bool :=
  c == ',' || c == '[' || c == ']' || c == '{' || c == '}'

/-- Reads a word of a plain text, given whether it stands inside brackets. -/
def readPlainWord (flow : Bool) : List Char → Option (List Char)
  | [] => some []
  | c :: rest =>
    let next (p : Char → Bool) : Bool := rest.head?.any p
    if isBlank c || isBreak c then some []
    else if c == ':' && rest.head?.all fun d => isBlank d || isBreak d then some []
    else if flow && c == ':' && next fun d => isFlowMark d || d == '?' then none
    else if flow && isFlowMark c then some []
    else (readPlainWord flow rest).map (c :: ·)

/-- A plain text as it was read. -/
structure PlainText where
  chars : List Char
  /-- The text is followed by a line break. -/
  endsLine : Bool
  deriving DecidableEq, Repr

/-- Reads a plain text; outside brackets all its lines stand right of column `indent` or at it. -/
def readPlain (flow : Bool) (indent : Nat) : Nat → Cursor → Option (PlainText × Cursor)
  | 0, _ => none
  | fuel + 1, cursor =>
    if cursor.atDocumentMark || cursor.peek? == some '#' then some (⟨[], false⟩, cursor)
    else
      (readPlainWord flow cursor.rest).bind fun word =>
        if word.isEmpty then some (⟨[], false⟩, cursor)
        else
          (Gap.read indent (cursor.advance word.length)).bind fun (gap, next) =>
            let ending : PlainText := ⟨word, !gap.breaks.isEmpty⟩
            if gap.isEmpty || (!flow && next.column < indent) then some (ending, next)
            else
              (readPlain flow indent fuel next).map fun (more, last) =>
                if more.chars.isEmpty then (ending, last)
                else (⟨word ++ gap.text ++ more.chars, more.endsLine⟩, last)

/-! ### Quoted texts -/

/-- The character of a short escape. -/
def escapeChar? : Char → Option Char
  | '0' => some (Char.ofNat 0)
  | 'a' => some (Char.ofNat 0x07)
  | 'b' => some (Char.ofNat 0x08)
  | 't' | '\t' => some '\t'
  | 'n' => some '\n'
  | 'v' => some (Char.ofNat 0x0B)
  | 'f' => some (Char.ofNat 0x0C)
  | 'r' => some '\r'
  | 'e' => some (Char.ofNat 0x1B)
  | ' ' => some ' '
  | '"' => some '"'
  | '/' => some '/'
  | '\\' => some '\\'
  | 'N' => some (Char.ofNat 0x85)
  | '_' => some (Char.ofNat 0xA0)
  | 'L' => some (Char.ofNat 0x2028)
  | 'P' => some (Char.ofNat 0x2029)
  | _ => none

/-- The number of digits of an escape by code point. -/
def escapeWidth? : Char → Option Nat
  | 'x' => some 2
  | 'u' => some 4
  | 'U' => some 8
  | _ => none

/-- Reads an escape whose backslash has been read. -/
def readEscape : List Char → Option (Char × List Char)
  | [] => none
  | c :: rest =>
    match escapeWidth? c with
    | some width =>
      (Text.readHex? width rest).bind fun (code, rest) => (Text.char? code).map fun c => (c, rest)
    | none => (escapeChar? c).map fun c => (c, rest)

/-- A word of a quoted text. -/
structure QuotedWord where
  chars : List Char
  /-- The word ends with a backslash in front of a line break. -/
  joined : Bool
  rest : List Char
  deriving DecidableEq, Repr

/-- Reads a word up to a blank, a line break or the closing quote. -/
def readQuotedWord (quote : Char) : Nat → List Char → Option QuotedWord
  | 0, _ => none
  | _ + 1, [] => some ⟨[], false, []⟩
  | fuel + 1, c :: rest =>
    let push (c : Char) (rest : List Char) : Option QuotedWord :=
      (readQuotedWord quote fuel rest).map fun word => { word with chars := c :: word.chars }
    if isBlank c || isBreak c then some ⟨[], false, c :: rest⟩
    else if c == quote then
      if quote == '\x27' && rest.head? == some quote then push quote (rest.drop 1)
      else some ⟨[], false, c :: rest⟩
    else if quote == '"' && c == '\\' then
      if rest.head?.any isBreak then some ⟨[], true, rest⟩
      else (readEscape rest).bind fun (c, rest) => push c rest
    else push c rest

/-- What a gap counts as inside a quoted text; after a backslash its first line break is dropped. -/
def Gap.quotedText (gap : Gap) (joined : Bool) : List Char :=
  if joined then (gap.breaks.drop 1).flatten else gap.text

/-- Reads a quoted text whose opening quote has been read. -/
def readQuoted (quote : Char) : Nat → Cursor → Option (List Char × Cursor)
  | 0, _ => none
  | fuel + 1, cursor =>
    if cursor.atDocumentMark || cursor.atEnd then none
    else
      (readQuotedWord quote (cursor.rest.length + 1) cursor.rest).bind fun word =>
        let next := cursor.advance (cursor.rest.length - word.rest.length)
        if next.peek? == some quote then some (word.chars, next.advance 1)
        else
          (Gap.read 0 next).bind fun (gap, next) =>
            (readQuoted quote fuel next).map fun (more, last) =>
              (word.chars ++ gap.quotedText word.joined ++ more, last)

/-! ### Block texts -/

/-- What becomes of the line breaks at the end of a block text. -/
inductive Chomp where
  | strip
  | clip
  | keep
  deriving DecidableEq, Repr

def Chomp.ofChar? : Char → Option Chomp
  | '-' => some .strip
  | '+' => some .keep
  | _ => none

structure BlockHeader where
  chomp : Chomp := .clip
  /-- The indentation of the lines, relative to the node around them. -/
  increment : Option Nat := none
  deriving DecidableEq, Repr

namespace BlockHeader

/-- The indentation that a digit gives; a zero gives none. -/
def digit? (c : Char) : Option Nat :=
  if c.isDigit && c != '0' then some (c.toNat - '0'.toNat) else none

/-- Reads the marks after the indicator of a block text: a chomping mark and a digit, in any order. -/
def read : List Char → BlockHeader × List Char
  | [] => ({}, [])
  | c :: rest =>
    match Chomp.ofChar? c, digit? c with
    | some chomp, _ =>
      match rest.head?.bind digit? with
      | some n => ({ chomp, increment := some n }, rest.drop 1)
      | none => ({ chomp }, rest)
    | none, some n =>
      match rest.head?.bind Chomp.ofChar? with
      | some chomp => ({ chomp, increment := some n }, rest.drop 1)
      | none => ({ increment := some n }, rest)
    | none, none => ({}, c :: rest)

end BlockHeader

/-- Reads the empty lines of a block text and the indentation of the line after them. Without a known
indentation all spaces count, and the result is the widest of them. -/
def readBlockBreaks (indent : Option Nat) : Nat → Nat → Cursor → Option (List Char × Nat × Cursor)
  | 0, _, _ => none
  | fuel + 1, widest, cursor =>
    let isIndent (column : Nat) : Bool := indent.all (column < ·)
    let spaces := (cursor.rest.takeWhile (· == ' ')).length
    let cursor := cursor.advance (match indent with
      | some n => min spaces (n - cursor.column)
      | none => spaces)
    let widest := max widest cursor.column
    if isIndent cursor.column && cursor.peek? == some '\t' then none
    else
      match cursor.readBreak? with
      | none => some ([], widest, cursor)
      | some (lineBreak, next) =>
        (readBlockBreaks indent fuel widest next).map fun (breaks, widest, last) =>
          (lineBreak ++ breaks, widest, last)

/-- The lines of a block text, with what precedes and follows them. -/
structure BlockText where
  chars : List Char
  /-- The line break after the last line. -/
  lastBreak : List Char
  /-- The empty lines after it. -/
  breaks : List Char
  deriving DecidableEq, Repr

/-- What stands between two lines of a block text. -/
def blockGap (folded blankBefore blankAfter : Bool) (lineBreak breaks : List Char) : List Char :=
  if folded && lineBreak.head? == some '\n' && !blankBefore && !blankAfter then
    (if breaks.isEmpty then [' '] else breaks)
  else lineBreak ++ breaks

/-- Reads the lines that stand at column `indent`, given what stands in front of them. -/
def readBlockLines (folded : Bool) (indent : Nat) :
    Nat → Bool → List Char → List Char → Cursor → Option (BlockText × Cursor)
  | 0, _, _, _, _ => none
  | fuel + 1, blankBefore, lineBreak, breaks, cursor =>
    if cursor.column == indent && !cursor.atEnd then
      let blank := cursor.isAt 0 isBlank
      let (line, next) := cursor.span (!isBreak ·)
      let (nextBreak, next) := next.readBreak?.getD ([], next)
      (readBlockBreaks (some indent) (next.rest.length + 1) 0 next).bind fun (nextBreaks, _, next) =>
        (readBlockLines folded indent fuel blank nextBreak nextBreaks next).map fun (text, last) =>
          ({ text with
             chars := blockGap folded blankBefore blank lineBreak breaks ++ line ++ text.chars }, last)
    else some (⟨[], lineBreak, breaks⟩, cursor)

/-- The text that the lines of a block text make up. -/
def BlockText.chomped (text : BlockText) : Chomp → List Char
  | .strip => text.chars
  | .clip => text.chars ++ text.lastBreak
  | .keep => text.chars ++ text.lastBreak ++ text.breaks

/-- Reads a block text whose indicator has been read; `outer` is the column of the node around it. -/
def readBlock (folded : Bool) (outer : Int) (cursor : Cursor) : Option (List Char × Cursor) :=
  let (header, rest) := BlockHeader.read cursor.rest
  let cursor := cursor.advance (cursor.rest.length - rest.length)
  let cursor := (cursor.skipWhile isBlank).skipComment
  if !cursor.lineEndsAt 0 then none
  else
    let cursor := cursor.skipBreak
    let fuel := cursor.rest.length + 1
    let known := header.increment.map fun n => outer.toNat + n
    (readBlockBreaks known fuel 0 cursor).bind fun (breaks, widest, next) =>
      let indent := known.getD (max widest (max (outer + 1).toNat 1))
      (readBlockLines folded indent fuel false [] breaks next).map fun (text, last) =>
        (text.chomped header.chomp, last)

end RouteScaffold.Yaml
