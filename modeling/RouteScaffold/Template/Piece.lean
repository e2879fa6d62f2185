import RouteScaffold.Template.Token
import RouteScaffold.Text.Blank

/-!
A template source as a row of texts and tags.

A statement or a comment on a line of its own leaves no trace of that line: the blanks in front of it
and the newline after it are dropped. A mark on a tag overrides this for its side: `-` drops all
blanks there and `+` drops none.
-/

namespace RouteScaffold.Template

inductive Piece where
  | text (s : String)
  | output (tokens : List Token)
  | statement (tokens : List Token)
  deriving DecidableEq, Repr

inductive Marker where
  | output
  | statement
  | comment
  deriving DecidableEq, Repr

/-- The text in front of the first tag, and that tag's kind with what follows its opening. -/
def splitMarker : List Char → List Char × Option (Marker × List Char)
  | '{' :: '{' :: rest => ([], some (.output, rest))
  | '{' :: '%' :: rest => ([], some (.statement, rest))
  | '{' :: '#' :: rest => ([], some (.comment, rest))
  | c :: rest =>
    let (lead, found) := splitMarker rest
    (c :: lead, found)
  | [] => ([], none)

/-- Whether only blanks stand on the last line after `s`, if so before it. -/
def lineIsBlank (before : Bool) (s : List Char) : Bool :=
  s.foldl (fun blank c => c == '\n' || c == '\r' || (blank && Text.isBlank c)) before

/-- Drops the blanks that a line begins with, up to the tag. -/
def dropIndent (s : List Char) : List Char :=
  Text.dropEndWhile (fun c => Text.isBlank c && c != '\n') s

/-- What a text keeps in front of a tag. -/
def Marker.trimLead (marker : Marker) (mark : BlankMark) (blankLine : Bool) (lead : List Char) :
    List Char :=
  match mark with
  | .remove => Text.dropEndWhile Text.isBlank lead
  | .keep => lead
  | .plain => if marker != .output && blankLine then dropIndent lead else lead

/-- Drops one line end. -/
def dropLineEnd (s : List Char) : List Char :=
  let s := if s.head? == some '\r' then s.drop 1 else s
  if s.head? == some '\n' then s.drop 1 else s

/-- How the text after a tag begins. -/
structure Tail where
  /-- Only blanks stand before it on its line. -/
  blankLine : Bool
  /-- Its leading blanks are dropped. -/
  trim : Bool
  rest : List Char
  deriving DecidableEq, Repr

/-- The text after a statement or a comment. -/
def Tail.ofMark (mark : BlankMark) (rest : List Char) : Tail :=
  match mark with
  | .plain =>
    let dropped := dropLineEnd rest
    { blankLine := dropped.length < rest.length, trim := false, rest := dropped }
  | .keep => { blankLine := false, trim := false, rest }
  | .remove => { blankLine := false, trim := true, rest }

/-- The body of a comment and what follows it. -/
def splitComment : List Char → Option (List Char × List Char)
  | [] => none
  | '#' :: '}' :: rest => some ([], rest)
  | c :: rest => (splitComment rest).map fun (body, after) => (c :: body, after)

/-- Reads the rest of a statement that holds only `word`, up to and with its end. -/
def readBareStatement (word s : List Char) : Option (BlankMark × List Char) :=
  let s := s.dropWhile isTagBlank
  if word.isPrefixOf s then
    TagKind.statement.close? ((s.drop word.length).dropWhile isTagBlank)
  else none

/-- The text up to the statement that ends a raw part, with the marks and the rest of that end. -/
def splitRaw : List Char → Option (List Char × BlankMark × BlankMark × List Char)
  | [] => none
  | c :: rest =>
    let ending :=
      match c, rest with
      | '{', '%' :: after =>
        let (mark, after) := BlankMark.read after
        (readBareStatement "endraw".toList after).map fun (endMark, after) =>
          ([], mark, endMark, after)
      | _, _ => none
    match ending with
    | some found => some found
    | none => (splitRaw rest).map fun (body, more) => (c :: body, more)

/-- What a raw part keeps of its body. -/
def trimRaw (startMark endMark : BlankMark) (body : List Char) : List Char :=
  let body :=
    match startMark with
    | .plain => dropLineEnd body
    | .keep => body
    | .remove => body.dropWhile Text.isBlank
  Marker.statement.trimLead endMark (lineIsBlank true body) body

def Piece.ofText (s : List Char) : List Piece :=
  if s.isEmpty then [] else [.text (String.ofList s)]

/-- Cuts what follows a tag, of at most `fuel` tags. -/
def Piece.cut : Nat → Tail → Option (List Piece)
  | 0, _ => none
  | fuel + 1, tail =>
    let s := if tail.trim then tail.rest.dropWhile Text.isBlank else tail.rest
    let skipped := tail.rest.take (tail.rest.length - s.length)
    match splitMarker s with
    | (lead, none) => some (Piece.ofText lead)
    | (lead, some (marker, rest)) =>
      let blankLine := lineIsBlank (lineIsBlank tail.blankLine skipped) lead
      let (mark, rest) := BlankMark.read rest
      let text := Piece.ofText (marker.trimLead mark blankLine lead)
      match marker with
      | .output =>
        (Token.readTag .output 0 false (rest.length + 1) rest).bind fun (tokens, endMark, rest) =>
          (Piece.cut fuel { blankLine := false, trim := endMark == .remove, rest }).map fun pieces =>
            text ++ .output tokens :: pieces
      | .comment =>
        (splitComment rest).bind fun (body, rest) =>
          let endMark := (body.getLast?.bind BlankMark.ofChar?).getD .plain
          (Piece.cut fuel (.ofMark endMark rest)).map fun pieces => text ++ pieces
      | .statement =>
        match readBareStatement "raw".toList rest with
        | some (startMark, rest) =>
          (splitRaw rest).bind fun (body, mark, endMark, rest) =>
            (Piece.cut fuel (.ofMark endMark rest)).map fun pieces =>
              text ++ Piece.ofText (trimRaw startMark mark body) ++ pieces
        | none =>
          (Token.readTag .statement 0 false (rest.length + 1) rest).bind
            fun (tokens, endMark, rest) =>
              (Piece.cut fuel (.ofMark endMark rest)).map fun pieces =>
                text ++ .statement tokens :: pieces

/-- Cuts a template source; a source with a tag that does not end has no pieces. -/
def Piece.ofChars? (source : List Char) : Option (List Piece) :=
  Piece.cut (source.length + 1) { blankLine := true, trim := false, rest := source }

end RouteScaffold.Template
