import RouteScaffold.Text.Hex

/-!
Numbers, dates and times as TOML writes them.

Only their form is checked: no option of a run is a number or a date.
-/

namespace RouteScaffold.Toml

/-- Digits with single underscores between them. -/
def isDigitRow (isDigit : Char → Bool) (s : List Char) : Bool :=
  (s.splitOn '_').all fun part => !part.isEmpty && part.all isDigit

def dropSign : List Char → List Char
  | '+' :: rest | '-' :: rest => rest
  | s => s

/-- A whole number without sign; only zero itself begins with a zero. -/
def isWhole (s : List Char) : Bool :=
  isDigitRow Char.isDigit s && (s.head? != some '0' || s.length == 1)

def isInteger (s : List Char) : Bool :=
  match s with
  | '0' :: 'x' :: rest => isDigitRow (fun c => (Text.hexDigit? c).isSome) rest
  | '0' :: 'o' :: rest => isDigitRow (fun c => '0' ≤ c && c ≤ '7') rest
  | '0' :: 'b' :: rest => isDigitRow (fun c => c == '0' || c == '1') rest
  | s => isWhole (dropSign s)

/-- The part in front of the first character that satisfies `p`, and the part behind it. -/
def cutAt (p : Char → Bool) (s : List Char) : List Char × Option (List Char) :=
  match s.dropWhile (!p ·) with
  | [] => (s, none)
  | _ :: rest => (s.takeWhile (!p ·), some rest)

def isDecimal (s : List Char) : Bool :=
  let body := dropSign s
  if body == ['i', 'n', 'f'] || body == ['n', 'a', 'n'] then true
  else
    let (mantissa, exponent) := cutAt (fun c => c == 'e' || c == 'E') body
    let (whole, fraction) := cutAt (· == '.') mantissa
    (exponent.isSome || fraction.isSome) && isWhole whole &&
      fraction.all (isDigitRow Char.isDigit) &&
      exponent.all fun digits => isDigitRow Char.isDigit (dropSign digits)

/-! ### Dates and times -/

/-- The number that exactly `count` digits write, if it lies between the bounds. -/
def twoDigits? (low high : Nat) (a b : Char) : Option Nat :=
  if a.isDigit && b.isDigit then
    let n := (a.toNat - '0'.toNat) * 10 + (b.toNat - '0'.toNat)
    if low ≤ n && n ≤ high then some n else none
  else none

def isLeapYear (year : Nat) : Bool :=
  year % 4 == 0 && (year % 100 != 0 || year % 400 == 0)

def daysOfMonth (year month : Nat) : Nat :=
  if month == 2 then (if isLeapYear year then 29 else 28)
  else if month == 4 || month == 6 || month == 9 || month == 11 then 30
  else 31

/-- Reads a calendar date. -/
def readDate : List Char → Option (List Char)
  | y₁ :: y₂ :: y₃ :: y₄ :: '-' :: m₁ :: m₂ :: '-' :: d₁ :: d₂ :: rest => do
    let century ← twoDigits? 0 99 y₁ y₂
    let years ← twoDigits? 0 99 y₃ y₄
    let month ← twoDigits? 1 12 m₁ m₂
    let _ ← twoDigits? 1 (daysOfMonth (century * 100 + years) month) d₁ d₂
    some rest
  | _ => none

/-- Skips a fraction of a second; `none` if its dot stands alone. -/
def skipSecondFraction : List Char → Option (List Char)
  | '.' :: rest => if rest.head?.any Char.isDigit then some (rest.dropWhile Char.isDigit) else none
  | s => some s

/-- Reads a time of day; the seconds may be left out. -/
def readTime : List Char → Option (List Char)
  | h₁ :: h₂ :: ':' :: m₁ :: m₂ :: rest => do
    let _ ← twoDigits? 0 23 h₁ h₂
    let _ ← twoDigits? 0 59 m₁ m₂
    match rest with
    | ':' :: s₁ :: s₂ :: rest =>
      let _ ← twoDigits? 0 60 s₁ s₂
      skipSecondFraction rest
    | ':' :: _ => none
    | rest => some rest
  | _ => none

def isOffset : List Char → Bool
  | [] | ['Z'] | ['z'] => true
  | [sign, h₁, h₂, ':', m₁, m₂] =>
    (sign == '+' || sign == '-') && (twoDigits? 0 23 h₁ h₂).isSome && (twoDigits? 0 59 m₁ m₂).isSome
  | _ => false

def isDateTime (s : List Char) : Bool :=
  match readDate s with
  | some [] => true
  | some (mark :: rest) => (mark == 'T' || mark == 't' || mark == ' ') && (readTime rest).any isOffset
  | none => readTime s == some []

end RouteScaffold.Toml
