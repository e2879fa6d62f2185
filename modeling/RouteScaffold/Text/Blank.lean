/-!
Blank characters, and text with its blank ends removed.

Main statements: a trimmed text neither begins nor ends with a blank (`head_trim`, `getLast_trim`),
and it is the middle part of the text between two blank parts (`exists_trim_eq`).
-/

namespace RouteScaffold.Text

/-- The code points of the Unicode property White_Space. -/
def blankRanges : List (Nat × Nat) :=
  [(0x09, 0x0D), (0x20, 0x20), (0x85, 0x85), (0xA0, 0xA0), (0x1680, 0x1680), (0x2000, 0x200A),
   (0x2028, 0x2029), (0x202F, 0x202F), (0x205F, 0x205F), (0x3000, 0x3000)]

def isBlank (c : Char) : Bool :=
  blankRanges.any fun r => r.1 ≤ c.toNat && c.toNat ≤ r.2

/-- Drops the characters at the end that satisfy `p`. -/
def dropEndWhile (p : Char → Bool) (s : List Char) : List Char :=
  (s.reverse.dropWhile p).reverse

/-- Drops the characters at both ends that satisfy `p`. -/
def stripWhile (p : Char → Bool) (s : List Char) : List Char :=
  dropEndWhile p (s.dropWhile p)

def trimChars (s : List Char) : List Char :=
  stripWhile isBlank s

/-- The text without the blanks at its two ends. -/
def trim (s : String) : String :=
  String.ofList (trimChars s.toList)

/-- The text without the occurrences of `c` at its two ends. -/
def trimMatches (c : Char) (s : String) : String :=
  String.ofList (stripWhile (· == c) s.toList)

@[simp] theorem toList_trim (s : String) : (trim s).toList = trimChars s.toList := by
  simp [trim]

theorem dropEndWhile_append_takeWhile (p : Char → Bool) (s : List Char) :
    dropEndWhile p s ++ (s.reverse.takeWhile p).reverse = s := by
  rw [dropEndWhile, ← List.reverse_append, List.takeWhile_append_dropWhile, List.reverse_reverse]

/-- Stripping removes a part of matching characters on the left and one on the right. -/
theorem exists_stripWhile_eq (p : Char → Bool) (s : List Char) :
    ∃ a b, s = a ++ stripWhile p s ++ b ∧ (∀ c ∈ a, p c = true) ∧ (∀ c ∈ b, p c = true) := by
  refine ⟨s.takeWhile p, ((s.dropWhile p).reverse.takeWhile p).reverse, ?_, ?_, ?_⟩
  · rw [List.append_assoc, stripWhile, dropEndWhile_append_takeWhile, List.takeWhile_append_dropWhile]
  · intro c hc
    exact List.all_eq_true.1 List.all_takeWhile c hc
  · intro c hc
    exact List.all_eq_true.1 List.all_takeWhile c (List.mem_reverse.1 hc)

theorem exists_trim_eq (s : List Char) :
    ∃ a b, s = a ++ trimChars s ++ b ∧ (∀ c ∈ a, isBlank c = true) ∧ (∀ c ∈ b, isBlank c = true) :=
  exists_stripWhile_eq isBlank s

theorem getLast_stripWhile (p : Char → Bool) {s : List Char} {c : Char}
    (h : (stripWhile p s).getLast? = some c) : p c = false := by
  rw [stripWhile, dropEndWhile, List.getLast?_reverse] at h
  have hne := List.head?_dropWhile_not p (s.dropWhile p).reverse
  rw [h] at hne
  simpa using hne

theorem head_stripWhile (p : Char → Bool) {s : List Char} {c : Char}
    (h : (stripWhile p s).head? = some c) : p c = false := by
  have hne := List.head?_dropWhile_not p s
  have hsplit := dropEndWhile_append_takeWhile p (s.dropWhile p)
  have hhead : (s.dropWhile p).head? = some c := by
    rw [← hsplit]
    change (stripWhile p s ++ _).head? = some c
    rw [List.head?_append, h]
    rfl
  rw [hhead] at hne
  simpa using hne

theorem head_trim {s : List Char} {c : Char} (h : (trimChars s).head? = some c) :
    isBlank c = false :=
  head_stripWhile isBlank h

theorem getLast_trim {s : List Char} {c : Char} (h : (trimChars s).getLast? = some c) :
    isBlank c = false :=
  getLast_stripWhile isBlank h

/-- There is nothing to strip from a text that begins and ends otherwise. -/
theorem stripWhile_eq_self (p : Char → Bool) {s : List Char}
    (hhead : ∀ c, s.head? = some c → p c = false) (hlast : ∀ c, s.getLast? = some c → p c = false) :
    stripWhile p s = s := by
  have hkeep : ∀ t : List Char, (∀ c, t.head? = some c → p c = false) → t.dropWhile p = t := by
    intro t ht
    cases t with
    | nil => rfl
    | cons c rest => simp [ht c rfl]
  unfold stripWhile dropEndWhile
  rw [hkeep s hhead, hkeep s.reverse (by simpa using hlast), List.reverse_reverse]

theorem trim_trim (s : String) : trim (trim s) = trim s := by
  have hchars : trimChars (trimChars s.toList) = trimChars s.toList :=
    stripWhile_eq_self isBlank (fun _ => head_trim) (fun _ => getLast_trim)
  unfold trim
  rw [String.toList_ofList, hchars]

end RouteScaffold.Text
