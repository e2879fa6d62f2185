/-!
A place in a YAML document: the text from there on, with its line and column.
-/

namespace RouteScaffold.Yaml

def isBreak (c : Char) : Bool :=
  c == '\n' || c == '\r' || c.toNat == 0x85 || c.toNat == 0x2028 || c.toNat == 0x2029

def isBlank (c : Char) : Bool :=
  c == ' ' || c == '\t'

/-- Characters of anchor names, tag handles and directive names. -/
def isWordChar (c : Char) : Bool :=
  c.isAlphanum || c == '_' || c == '-'

/-- Characters that may stand in a document. -/
def isPrintable (c : Char) : Bool :=
  let n := c.toNat
  n == 0x09 || n == 0x0A || n == 0x0D || (0x20 ≤ n && n ≤ 0x7E) || n == 0x85 ||
    (0xA0 ≤ n && n != 0xFFFE && n != 0xFFFF)

structure Cursor where
  rest : List Char
  line : Nat := 0
  column : Nat := 0
  /-- The number of characters before this place. -/
  index : Nat := 0
  deriving Repr

namespace Cursor

def peek? (cursor : Cursor) : Option Char := cursor.rest.head?

def atEnd (cursor : Cursor) : Bool := cursor.rest.isEmpty

/-- Whether the character `offset` places ahead satisfies `p`. -/
def isAt (cursor : Cursor) (offset : Nat) (p : Char → Bool) : Bool :=
  cursor.rest[offset]?.any p

/-- A line break or the end stands `offset` places ahead. -/
def lineEndsAt (cursor : Cursor) (offset : Nat) : Bool :=
  cursor.rest[offset]?.all isBreak

/-- A blank, a line break or the end stands `offset` places ahead. -/
def wordEndsAt (cursor : Cursor) (offset : Nat) : Bool :=
  cursor.rest[offset]?.all fun c => isBlank c || isBreak c

/-- Goes on by `count` characters of the same line. -/
def advance (cursor : Cursor) (count : Nat) : Cursor :=
  { cursor with
    rest := cursor.rest.drop count
    column := cursor.column + count
    index := cursor.index + count }

/-- The place after a line break of `width` characters. -/
def nextLine (cursor : Cursor) (width : Nat) : Cursor :=
  { rest := cursor.rest.drop width
    line := cursor.line + 1
    column := 0
    index := cursor.index + width }

/-- Reads a line break; all of them but the two Unicode separators count as a newline. -/
def readBreak? (cursor : Cursor) : Option (List Char × Cursor) :=
  match cursor.rest with
  | '\r' :: '\n' :: _ => some (['\n'], cursor.nextLine 2)
  | c :: _ =>
    if isBreak c then
      some ([if c.toNat == 0x2028 || c.toNat == 0x2029 then c else '\n'], cursor.nextLine 1)
    else none
  | [] => none

/-- The place after a line break, if one stands here. -/
def skipBreak (cursor : Cursor) : Cursor :=
  match cursor.readBreak? with
  | some (_, next) => next
  | none => cursor

/-- The characters of this line up to the first that does not satisfy `p`. -/
def span (p : Char → Bool) (cursor : Cursor) : List Char × Cursor :=
  let chars := cursor.rest.takeWhile p
  (chars, cursor.advance chars.length)

def skipWhile (p : Char → Bool) (cursor : Cursor) : Cursor :=
  (cursor.span p).2

/-- Skips a comment, up to the end of its line. -/
def skipComment (cursor : Cursor) : Cursor :=
  if cursor.peek? == some '#' then cursor.skipWhile (!isBreak ·) else cursor

/-- A row of three dashes or three dots that fills the start of a line. -/
def atMark (cursor : Cursor) (c : Char) : Bool :=
  cursor.column == 0 && [c, c, c].isPrefixOf cursor.rest && cursor.wordEndsAt 3

def atDocumentMark (cursor : Cursor) : Bool :=
  cursor.atMark '-' || cursor.atMark '.'

end Cursor

end RouteScaffold.Yaml
