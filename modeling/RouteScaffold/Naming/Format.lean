import RouteScaffold.Naming.Words

/-!
File naming formats.

A format is a sample spelling of the two words `go` and `zero`. The case of each sample word says
how the first word and the other words of an identifier are written, and the punctuation around and
between them is copied: `_go#zero_` writes `listHandler` as `_list#handler_`.
-/

namespace RouteScaffold.Naming

inductive WordStyle where
  | lower
  | upper
  | title
  deriving DecidableEq, Repr

def WordStyle.apply : WordStyle → List Char → List Char
  | .lower, word => Text.lowerChars word
  | .upper, word => Text.upperChars word
  | .title, word => Text.titleChars (Text.lowerChars word)

/-- The two words that a format spells. -/
inductive SampleWord where
  | go
  | zero
  deriving DecidableEq, Repr

def SampleWord.text : SampleWord → List Char
  | .go => ['g', 'o']
  | .zero => ['z', 'e', 'r', 'o']

/-- How a style spells a sample word. -/
def SampleWord.spelled (word : SampleWord) (style : WordStyle) : List Char :=
  style.apply word.text

/-- The style that spells `word` as `found`, if there is one. -/
def SampleWord.styleOf (word : SampleWord) (found : List Char) : Option WordStyle :=
  [WordStyle.lower, .upper, .title].find? fun style => found == word.spelled style

/-- Why a text is no naming format. -/
inductive FormatFault where
  | notAscii
  | wordsMissing
  | notPunctuation
  | misspelled (word : SampleWord) (found : String)
  deriving DecidableEq, Repr

def FormatFault.message : FormatFault → String
  | .notAscii => "only ASCII formats are supported"
  | .wordsMissing => "expected the words 'go' and 'zero' in that order"
  | .notPunctuation => "only punctuation may surround 'go' and 'zero'"
  | .misspelled word found =>
    "'" ++ found ++ "' must be spelled " ++ String.ofList (word.spelled .lower) ++ ", " ++
      String.ofList (word.spelled .upper) ++ " or " ++ String.ofList (word.spelled .title)

structure NamingFormat where
  before : List Char := []
  first : WordStyle := .lower
  separator : List Char := []
  rest : WordStyle := .lower
  after : List Char := []
  deriving DecidableEq, Repr

instance : Inhabited NamingFormat := ⟨{}⟩

/-- The position of the first occurrence of `pattern`. -/
def position? (pattern : List Char) : List Char → Option Nat
  | [] => if pattern.isEmpty then some 0 else none
  | c :: rest =>
    if pattern.isPrefixOf (c :: rest) then some 0
    else (position? pattern rest).map (· + 1)

/-- Characters that may surround the sample words. -/
def isPunctuation (c : Char) : Bool :=
  !c.isAlphanum

namespace NamingFormat

/-- The sample spelling itself. -/
def chars (format : NamingFormat) : List Char :=
  format.before ++ SampleWord.go.spelled format.first ++ format.separator ++
    SampleWord.zero.spelled format.rest ++ format.after

def text (format : NamingFormat) : String :=
  String.ofList format.chars

/-- Reads the format whose words stand at the positions `goAt` and `zeroAt` of `s`. -/
def ofPositions (s : List Char) (goAt zeroAt : Nat) : Except FormatFault NamingFormat :=
  let before := s.take goAt
  let separator := (s.drop (goAt + 2)).take (zeroAt - (goAt + 2))
  let after := s.drop (zeroAt + 4)
  let goWord := (s.drop goAt).take 2
  let zeroWord := (s.drop zeroAt).take 4
  if !(before ++ separator ++ after).all isPunctuation then .error .notPunctuation
  else
    match SampleWord.go.styleOf goWord, SampleWord.zero.styleOf zeroWord with
    | none, _ => .error (.misspelled .go (String.ofList goWord))
    | some _, none => .error (.misspelled .zero (String.ofList zeroWord))
    | some first, some rest => .ok { before, first, separator, rest, after }

def parseChars (s : List Char) : Except FormatFault NamingFormat :=
  if !s.all (·.toNat < 0x80) then .error .notAscii
  else
    let lowered := s.map Char.toLower
    match position? SampleWord.go.text lowered, position? SampleWord.zero.text lowered with
    | some goAt, some zeroAt =>
      if goAt + 2 ≤ zeroAt then ofPositions s goAt zeroAt else .error .wordsMissing
    | _, _ => .error .wordsMissing

def parse (s : String) : Except FormatFault NamingFormat :=
  parseChars s.toList

/-- The words of an identifier in the styles of the format, without what surrounds them. -/
def styledWords (format : NamingFormat) : List (List Char) → List (List Char)
  | [] => []
  | word :: words => format.first.apply word :: words.map format.rest.apply

def applyChars (format : NamingFormat) (name : List Char) : List Char :=
  format.before ++ format.separator.intercalate (format.styledWords (wordsOf name)) ++ format.after

/-- Writes an identifier as a file stem. -/
def apply (format : NamingFormat) (name : String) : String :=
  String.ofList (format.applyChars name.toList)

@[simp] theorem toList_apply (format : NamingFormat) (name : String) :
    (format.apply name).toList = format.applyChars name.toList := by
  simp [apply]

end NamingFormat

example : (NamingFormat.parse "gozero").toOption = some {} := by decide +kernel
example : ((NamingFormat.parse "_go#zero_").toOption.map (·.apply "createHandler")) =
    some "_create#handler_" := by decide +kernel
example : (NamingFormat.parse "go_zEro").toOption = none := by decide +kernel

end RouteScaffold.Naming
