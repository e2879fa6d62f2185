import RouteScaffold.Text.CaseTable

/-!
Letter case: the classes of capital and small letters, and the full case mappings of texts.

A character may map to several ("ß" to "SS"), and a capital sigma maps to its final form at the end
of a word.
-/

namespace RouteScaffold.Text

def isUppercase (c : Char) : Bool :=
  if c.toNat < 0x80 then c.isUpper else uppercaseRuns.any (·.contains c.toNat)

def isLowercase (c : Char) : Bool :=
  if c.toNat < 0x80 then c.isLower else lowercaseRuns.any (·.contains c.toNat)

/-- Letters that have a case: capital, small or title. -/
def isCased (c : Char) : Bool :=
  isUppercase c || isLowercase c || titlecaseRuns.any (·.contains c.toNat)

/-- Characters that are skipped when the neighbours of a sigma are looked for. -/
def isCaseIgnorable (c : Char) : Bool :=
  if c.toNat < 0x80 then [0x27, 0x2E, 0x3A, 0x5E, 0x60].contains c.toNat
  else caseIgnorableRuns.any (·.contains c.toNat)

/-- The mapping of a code point past ASCII: several characters, one character, or itself. -/
def mapCode (expansions : List (Nat × List Nat)) (shifts : List CaseRun) (code : Nat) : List Nat :=
  match expansions.lookup code with
  | some codes => codes
  | none =>
    match shifts.find? fun entry => entry.run.contains code with
    | some entry => [entry.target code]
    | none => [code]

def upperChar (c : Char) : List Char :=
  if c.toNat < 0x80 then [c.toUpper]
  else (mapCode upperExpansions upperShifts c.toNat).map Char.ofNat

def lowerChar (c : Char) : List Char :=
  if c.toNat < 0x80 then [c.toLower]
  else (mapCode lowerExpansions lowerShifts c.toNat).map Char.ofNat

def upperChars (s : List Char) : List Char :=
  s.flatMap upperChar

/-- The first character that is not case-ignorable exists and has a case. -/
def meetsCased (s : List Char) : Bool :=
  match s.dropWhile isCaseIgnorable with
  | [] => false
  | c :: _ => isCased c

/-- A capital sigma between `before` (nearest first) and `after` ends its word. -/
def isFinalSigma (before after : List Char) : Bool :=
  meetsCased before && !meetsCased after

/-- Lowercases the text that follows `before`, which is given nearest character first. -/
def lowerCharsAfter (before : List Char) : List Char → List Char
  | [] => []
  | c :: rest =>
    (if c = 'Σ' then [if isFinalSigma before rest then 'ς' else 'σ'] else lowerChar c) ++
      lowerCharsAfter (c :: before) rest

def lowerChars (s : List Char) : List Char :=
  lowerCharsAfter [] s

def lowercase (s : String) : String :=
  String.ofList (lowerChars s.toList)

/-- Uppercases the first character and leaves the rest untouched. -/
def titleChars : List Char → List Char
  | [] => []
  | c :: rest => upperChar c ++ rest

def title (s : String) : String :=
  String.ofList (titleChars s.toList)

@[simp] theorem toList_title (s : String) : (title s).toList = titleChars s.toList := by
  simp [title]

@[simp] theorem toList_lowercase (s : String) : (lowercase s).toList = lowerChars s.toList := by
  simp [lowercase]

@[simp] theorem titleChars_nil : titleChars [] = [] := rfl

@[simp] theorem titleChars_cons (c : Char) (rest : List Char) :
    titleChars (c :: rest) = upperChar c ++ rest := rfl

example : title "ßeta" = "SSeta" := by decide +kernel
example : lowercase "ΟΔΟΣ" = "οδος" := by decide +kernel
example : lowercase "İ" = "i̇" := by decide +kernel
example : title "ǆx" = "Ǆx" := by decide +kernel

end RouteScaffold.Text
