/-!
Hexadecimal digits.
-/

namespace RouteScaffold.Text

def hexDigit? (c : Char) : Option Nat :=
  if '0' ≤ c ∧ c ≤ '9' then some (c.toNat - '0'.toNat)
  else if 'a' ≤ c ∧ c ≤ 'f' then some (c.toNat - 'a'.toNat + 10)
  else if 'A' ≤ c ∧ c ≤ 'F' then some (c.toNat - 'A'.toNat + 10)
  else none

/-- The number that hexadecimal digits write. -/
def hexNumber? (digits : List Char) : Option Nat :=
  digits.foldlM (fun n c => (hexDigit? c).map (n * 16 + ·)) 0

/-- Reads a number of exactly `count` hexadecimal digits. -/
def readHex? (count : Nat) (s : List Char) : Option (Nat × List Char) :=
  let digits := s.take count
  if digits.length == count then (hexNumber? digits).map fun n => (n, s.drop count) else none

/-- The character of a code point, if it is one. -/
def char? (code : Nat) : Option Char :=
  if code.isValidChar then some (Char.ofNat code) else none

end RouteScaffold.Text
