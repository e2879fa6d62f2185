import RouteScaffold.Text.Case

/-!
Identifiers as words: where an identifier is cut, and its camel and snake spellings.

Separators end a word and are dropped. Inside a run without separators a word begins at a capital
letter that follows a small letter or a digit, and at the last capital of a row of capitals when a
small letter follows it: `getHTTPServer` is `get`, `HTTP`, `Server`.
-/

namespace RouteScaffold.Naming

def isSeparator (c : Char) : Bool :=
  c == '_' || c == '-' || c == ' ' || c == '/' || c == '.' || c == '\t'

/-- A word begins at `c`, which follows `previous` and is followed by `next`. -/
def startsWord (previous c : Char) (next : Option Char) : Bool :=
  Text.isUppercase c &&
    (Text.isLowercase previous || previous.isDigit ||
      (Text.isUppercase previous && next.any Text.isLowercase))

/-- No character of `rest` belongs to the word that `c` is part of. -/
def endsWord (c : Char) : List Char → Bool
  | [] => true
  | d :: rest => isSeparator d || startsWord c d rest.head?

/-- Puts a character in front of the first word. -/
def extendFirst (c : Char) : List (List Char) → List (List Char)
  | [] => [[c]]
  | word :: words => (c :: word) :: words

def wordsOf : List Char → List (List Char)
  | [] => []
  | c :: rest =>
    if isSeparator c then wordsOf rest
    else if endsWord c rest then [c] :: wordsOf rest
    else extendFirst c (wordsOf rest)

def splitWords (s : String) : List String :=
  (wordsOf s.toList).map String.ofList

/-- The pieces between separators, each with its first letter in upper case. -/
def camelChars (s : List Char) : List Char :=
  (s.splitOnP isSeparator).flatMap Text.titleChars

/-- Upper camel case; only the first letter after a separator changes, so `userRole` is `UserRole`. -/
def camelCase (s : String) : String :=
  String.ofList (camelChars s.toList)

def snakeChars (s : List Char) : List Char :=
  ['_'].intercalate ((wordsOf s).map Text.lowerChars)

/-- The words in lower case, joined by underscores. -/
def snakeCase (s : String) : String :=
  String.ofList (snakeChars s.toList)

@[simp] theorem toList_camelCase (s : String) : (camelCase s).toList = camelChars s.toList := by
  simp [camelCase]

@[simp] theorem toList_snakeCase (s : String) : (snakeCase s).toList = snakeChars s.toList := by
  simp [snakeCase]

@[simp] theorem wordsOf_nil : wordsOf [] = [] := rfl

theorem wordsOf_cons (c : Char) (rest : List Char) :
    wordsOf (c :: rest) =
      if isSeparator c then wordsOf rest
      else if endsWord c rest then [c] :: wordsOf rest
      else extendFirst c (wordsOf rest) := rfl

theorem ne_nil_of_mem_wordsOf {s word : List Char} (h : word ∈ wordsOf s) : word ≠ [] := by
  induction s generalizing word with
  | nil => cases h
  | cons c rest ih =>
    rw [wordsOf_cons] at h
    split at h
    · exact ih h
    · split at h
      · rcases List.mem_cons.1 h with rfl | h
        · exact List.cons_ne_nil _ _
        · exact ih h
      · cases hwords : wordsOf rest with
        | nil =>
          rw [hwords] at h
          rw [List.mem_singleton.1 h]
          exact List.cons_ne_nil _ _
        | cons first others =>
          rw [hwords] at h ih
          rcases List.mem_cons.1 h with rfl | h
          · exact List.cons_ne_nil _ _
          · exact ih (List.mem_cons_of_mem _ h)

example : splitWords "listAllHandler" = ["list", "All", "Handler"] := by decide +kernel
example : splitWords "getHTTP2Server" = ["get", "HTTP2", "Server"] := by decide +kernel
example : camelCase "admin/report" = "AdminReport" := by decide +kernel
example : snakeCase "IDs" = "i_ds" := by decide +kernel

end RouteScaffold.Naming
