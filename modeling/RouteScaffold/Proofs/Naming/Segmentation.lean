import RouteScaffold.Proofs.Naming.Words

/-!
# Words as a segmentation

The words of an identifier are its runs of kept characters, cut where the rule of `startsWord` says so
and nowhere else. Cutting is stable: every word is a single word on its own, and words that are joined by
a separator are read back. A joint hides what follows a word from its last character, which can only take
a reason to cut away.

The main statement is `splitWords_segments`.
-/

namespace RouteScaffold.Naming

variable {s t word : List Char} {words : List (List Char)} {c d : Char}

theorem isLowercase_of_isSeparator (h : isSeparator c = true) : Text.isLowercase c = false := by
  obtain ⟨hascii, -, hlower⟩ := isMark_of_isSeparator h
  rw [Text.isLowercase, if_pos hascii, hlower]

/-! ### Cuts -/

theorem wordsOf_cons_of_isSeparator (h : isSeparator c = true) (rest : List Char) :
    wordsOf (c :: rest) = wordsOf rest := by
  rw [wordsOf_cons, if_pos h]

theorem wordsOf_ne_nil (h : ∃ c ∈ s, isSeparator c = false) : wordsOf s ≠ [] := by
  obtain ⟨c, hc, hkept⟩ := h
  intro hnil
  have hflat : c ∈ (wordsOf s).flatten := by
    rw [flatten_wordsOf, List.mem_filter]
    exact ⟨hc, by rw [hkept]; rfl⟩
  rw [hnil] at hflat
  cases hflat

theorem exists_of_endsWord_eq_false (h : endsWord c s = false) :
    ∃ d rest, s = d :: rest ∧ isSeparator d = false ∧ startsWord c d rest.head? = false := by
  cases s with
  | nil => cases h
  | cons d rest =>
    rw [endsWord, Bool.or_eq_false_iff] at h
    exact ⟨d, rest, rfl, h.1, h.2⟩

theorem wordsOf_ne_nil_of_endsWord (h : endsWord c s = false) : wordsOf s ≠ [] := by
  obtain ⟨d, rest, rfl, hd, -⟩ := exists_of_endsWord_eq_false h
  exact wordsOf_ne_nil ⟨d, List.mem_cons_self, hd⟩

theorem extendFirst_append (h : words ≠ []) (more : List (List Char)) :
    extendFirst c (words ++ more) = extendFirst c words ++ more := by
  obtain ⟨first, others, rfl⟩ := List.exists_cons_of_ne_nil h
  rfl

/-- A continuation that begins with no small letter tells the character before it nothing. -/
theorem endsWord_append (hs : s ≠ []) (hhead : ∀ d, t.head? = some d → Text.isLowercase d = false) :
    endsWord c (s ++ t) = endsWord c s := by
  obtain ⟨d, rest, rfl⟩ := List.exists_cons_of_ne_nil hs
  rw [List.cons_append, endsWord, endsWord]
  cases rest with
  | cons e more => rfl
  | nil =>
    have hnext : t.head?.any Text.isLowercase = false := by
      cases hd : t.head? with
      | none => rfl
      | some e => exact hhead e hd
    rw [List.nil_append, List.head?_nil, startsWord, startsWord, hnext]
    rfl

/-- Texts that meet at a cut have their own words. -/
theorem wordsOf_append (hcut : ∀ c, s.getLast? = some c → isSeparator c = true ∨ endsWord c t = true)
    (hhead : ∀ d, t.head? = some d → Text.isLowercase d = false) :
    wordsOf (s ++ t) = wordsOf s ++ wordsOf t := by
  induction s with
  | nil => rfl
  | cons c rest ih =>
    cases rest with
    | nil =>
      -- The cut: `c` is a separator, or its word ends here.
      rw [List.singleton_append, wordsOf_cons, wordsOf_cons]
      obtain hsep | hends := hcut c rfl
      · rw [if_pos hsep, if_pos hsep]
        rfl
      · rw [if_pos hends]
        split <;> rfl
    | cons d more =>
      have hrest := ih fun e he => hcut e (by rw [List.getLast?_cons_cons, he])
      have hends : endsWord c (d :: more ++ t) = endsWord c (d :: more) :=
        endsWord_append (List.cons_ne_nil d more) hhead
      rw [List.cons_append, wordsOf_cons, wordsOf_cons c (d :: more), hends, hrest]
      split
      · rfl
      split
      · rfl
      case isFalse hinside =>
        exact extendFirst_append (wordsOf_ne_nil_of_endsWord (Bool.eq_false_iff.2 hinside)) _

theorem wordsOf_append_cons (h : isSeparator c = true) (s t : List Char) :
    wordsOf (s ++ c :: t) = wordsOf s ++ wordsOf t := by
  rw [wordsOf_append, wordsOf_cons_of_isSeparator h]
  · intro d _
    exact .inr (by rw [endsWord, h, Bool.true_or])
  · rintro d ⟨⟩
    exact isLowercase_of_isSeparator h

/-! ### Single words -/

/-- A next character can only add a reason to cut. -/
theorem startsWord_of_none {previous : Char} (h : startsWord previous c none = true)
    (next : Option Char) : startsWord previous c next = true := by
  simp only [startsWord, Option.any_none, Bool.and_false, Bool.or_false, Bool.and_eq_true] at h
  simp only [startsWord, h.1, h.2, Bool.true_or, Bool.and_self]

theorem endsWord_of_isPrefix (ht : t ≠ []) (hpre : t <+: s) (h : endsWord c s = false) :
    endsWord c t = false := by
  obtain ⟨d, rest, rfl⟩ := List.exists_cons_of_ne_nil ht
  obtain ⟨more, rfl⟩ := hpre
  rw [List.cons_append, endsWord, Bool.or_eq_false_iff] at h
  rw [endsWord, h.1, Bool.false_or]
  cases rest with
  | cons e others => exact h.2
  | nil =>
    rw [Bool.eq_false_iff]
    intro hnone
    rw [startsWord_of_none hnone] at h
    cases h.2

theorem isPrefix_of_wordsOf_eq_cons (hkept : isSeparator c = false)
    (h : wordsOf (c :: s) = word :: words) : word <+: c :: s := by
  induction s generalizing c word words with
  | nil =>
    rw [wordsOf_cons, hkept, endsWord] at h
    cases h
    exact List.prefix_rfl
  | cons d rest ih =>
    rw [wordsOf_cons, if_neg (by rw [hkept]; exact Bool.false_ne_true)] at h
    split at h
    case isTrue =>
      cases h
      exact List.prefix_append [c] (d :: rest)
    case isFalse hinside =>
      have hinside : endsWord c (d :: rest) = false := Bool.eq_false_iff.2 hinside
      obtain ⟨e, more, heq, he, -⟩ := exists_of_endsWord_eq_false hinside
      obtain ⟨rfl, rfl⟩ := List.cons.inj heq
      obtain ⟨first, others, hwords⟩ := List.exists_cons_of_ne_nil (wordsOf_ne_nil_of_endsWord hinside)
      rw [hwords] at h
      cases h
      exact List.cons_prefix_cons.2 ⟨rfl, ih he hwords⟩

theorem wordsOf_of_mem_wordsOf (h : word ∈ wordsOf s) : wordsOf word = [word] := by
  induction s generalizing word with
  | nil => cases h
  | cons c rest ih =>
    rw [wordsOf_cons] at h
    split at h
    · exact ih h
    case isFalse hsep =>
      split at h
      case isTrue =>
        rcases List.mem_cons.1 h with rfl | h
        · rw [wordsOf_cons, if_neg hsep]
          rfl
        · exact ih h
      case isFalse hinside =>
        have hinside : endsWord c rest = false := Bool.eq_false_iff.2 hinside
        obtain ⟨first, others, hwords⟩ := List.exists_cons_of_ne_nil (wordsOf_ne_nil_of_endsWord hinside)
        rw [hwords] at h ih
        rcases List.mem_cons.1 h with rfl | h
        · -- The first word is a beginning of `rest`, so what follows `c` there still ends no word.
          obtain ⟨d, more, rfl, hd, -⟩ := exists_of_endsWord_eq_false hinside
          have hfirst : first ≠ [] := ne_nil_of_mem_wordsOf (hwords ▸ List.mem_cons_self)
          have hends := endsWord_of_isPrefix hfirst (isPrefix_of_wordsOf_eq_cons hd hwords) hinside
          rw [wordsOf_cons, if_neg hsep, hends, ih List.mem_cons_self]
          rfl
        · exact ih (List.mem_cons_of_mem first h)

/-- Single words that are joined by a separator are read back. -/
theorem wordsOf_intercalate (hsep : isSeparator c = true) (h : ∀ word ∈ words, wordsOf word = [word]) :
    wordsOf ([c].intercalate words) = words := by
  induction words with
  | nil => rfl
  | cons word words ih =>
    obtain ⟨hword, hrest⟩ := List.forall_mem_cons.1 h
    cases words with
    | nil => rw [List.intercalate_singleton, hword]
    | cons next others =>
      rw [List.intercalate_cons_cons, List.append_assoc, List.singleton_append, wordsOf_append_cons hsep,
        hword, ih hrest]
      rfl

/-! ### The word of a character -/

/-- How many characters of a text are kept. -/
def keptCount (s : List Char) : Nat :=
  s.countP fun c => !isSeparator c

/-- The number of the word that holds the character at an offset of the joined words. -/
def wordIndex : List (List Char) → Nat → Nat
  | [], _ => 0
  | word :: words, offset =>
    if offset < word.length then 0 else wordIndex words (offset - word.length) + 1

theorem wordIndex_singleton_cons_succ (c : Char) (words : List (List Char)) (offset : Nat) :
    wordIndex ([c] :: words) (offset + 1) = wordIndex words offset + 1 := by
  simp [wordIndex]

theorem wordIndex_extendFirst_zero (c : Char) (words : List (List Char)) :
    wordIndex (extendFirst c words) 0 = 0 := by
  cases words <;> simp [extendFirst, wordIndex]

theorem wordIndex_extendFirst_succ (h : words ≠ []) (offset : Nat) :
    wordIndex (extendFirst c words) (offset + 1) = wordIndex words offset := by
  obtain ⟨first, others, rfl⟩ := List.exists_cons_of_ne_nil h
  simp [extendFirst, wordIndex, Nat.add_sub_add_right]

/-- Neighbours that are kept stand in different words exactly where the rule begins a word. -/
theorem wordIndex_ne_iff {before after : List Char} (hc : isSeparator c = false)
    (hd : isSeparator d = false) :
    wordIndex (wordsOf (before ++ c :: d :: after)) (keptCount before) ≠
        wordIndex (wordsOf (before ++ c :: d :: after)) (keptCount before + 1) ↔
      startsWord c d after.head? = true := by
  unfold keptCount
  induction before with
  | nil =>
    have hends : endsWord c (d :: after) = startsWord c d after.head? := by
      rw [endsWord, hd, Bool.false_or]
    have hwords : wordsOf (d :: after) ≠ [] := wordsOf_ne_nil ⟨d, List.mem_cons_self, hd⟩
    rw [List.nil_append, List.countP_nil, wordsOf_cons, hc, if_neg Bool.false_ne_true, hends]
    cases startsWord c d after.head? with
    | true =>
      rw [if_pos rfl, wordIndex_singleton_cons_succ]
      simp [wordIndex]
    | false =>
      obtain ⟨first, others, hfirst⟩ := List.exists_cons_of_ne_nil hwords
      have hlength : 0 < first.length :=
        List.length_pos_iff.2 (ne_nil_of_mem_wordsOf (hfirst ▸ List.mem_cons_self))
      rw [if_neg Bool.false_ne_true, wordIndex_extendFirst_zero, wordIndex_extendFirst_succ hwords, hfirst,
        wordIndex, if_pos hlength]
      simp
  | cons e before ih =>
    rw [← ih, List.cons_append, wordsOf_cons]
    cases he : isSeparator e with
    | true => rw [if_pos rfl, List.countP_cons_of_neg (by simp [he])]
    | false =>
      rw [if_neg Bool.false_ne_true, List.countP_cons_of_pos (by simp [he])]
      split
      case isTrue =>
        rw [wordIndex_singleton_cons_succ, wordIndex_singleton_cons_succ, Ne, Nat.add_right_cancel_iff]
      case isFalse hinside =>
        have hwords := wordsOf_ne_nil_of_endsWord (Bool.eq_false_iff.2 hinside)
        rw [wordIndex_extendFirst_succ hwords, wordIndex_extendFirst_succ hwords]

theorem startsWord_iff {previous : Char} {after : List Char} :
    startsWord previous c after.head? = true ↔
      Text.isUppercase c = true ∧ (Text.isLowercase previous = true ∨ previous.isDigit = true ∨
        Text.isUppercase previous = true ∧ ∃ next, after.head? = some next ∧ Text.isLowercase next = true) := by
  rw [startsWord, Bool.and_eq_true, Bool.or_eq_true, Bool.or_eq_true, Bool.and_eq_true, or_assoc,
    Option.any_eq_true]

/-! ### Identifiers -/

theorem map_toList_splitWords (s : String) : (splitWords s).map String.toList = wordsOf s.toList := by
  rw [splitWords, List.map_map]
  simp [Function.comp_def]

theorem splitWords_intercalate (hsep : isSeparator c = true) (s : String) :
    splitWords ((String.singleton c).intercalate (splitWords s)) = splitWords s := by
  have hwords : wordsOf ([c].intercalate (wordsOf s.toList)) = wordsOf s.toList :=
    wordsOf_intercalate hsep fun _ => wordsOf_of_mem_wordsOf
  rw [splitWords, String.toList_intercalate, map_toList_splitWords, String.toList_singleton, hwords,
    splitWords]

/-- The words are not empty and hold no separators; end to end they are the identifier without its
separators. Two kept neighbours stand in different words exactly when the second is a capital after a small
letter or a digit, or a capital after a capital and before a small letter. Words that are joined by any
separator are read back. -/
theorem splitWords_segments (s : String) :
    (∀ word ∈ splitWords s, word ≠ "" ∧ ∀ c ∈ word.toList, isSeparator c = false) ∧
      (String.join (splitWords s)).toList = s.toList.filter (fun c => !isSeparator c) ∧
      (∀ before c d after, s.toList = before ++ c :: d :: after →
        isSeparator c = false → isSeparator d = false →
          (wordIndex ((splitWords s).map String.toList) (keptCount before) ≠
              wordIndex ((splitWords s).map String.toList) (keptCount before + 1) ↔
            Text.isUppercase d = true ∧ (Text.isLowercase c = true ∨ c.isDigit = true ∨
              Text.isUppercase c = true ∧
                ∃ next, after.head? = some next ∧ Text.isLowercase next = true))) ∧
      ∀ sep, isSeparator sep = true →
        splitWords ((String.singleton sep).intercalate (splitWords s)) = splitWords s := by
  refine ⟨?parts, ?lossless, ?cuts, fun sep hsep => splitWords_intercalate hsep s⟩
  case parts =>
    intro word hword
    obtain ⟨chars, hchars, rfl⟩ := List.mem_map.1 hword
    rw [Ne, String.ofList_eq_empty_iff, String.toList_ofList]
    exact ⟨ne_nil_of_mem_wordsOf hchars, fun c hc => (mem_of_mem_wordsOf hchars hc).2⟩
  case lossless =>
    rw [String.toList_join, List.flatMap_def, map_toList_splitWords, flatten_wordsOf]
  case cuts =>
    intro before c d after hs hc hd
    rw [map_toList_splitWords, hs, wordIndex_ne_iff hc hd, startsWord_iff]

theorem serverApi_segments :
    "HTTPServer/v2Api".toList = "HTTPServer/v".toList ++ '2' :: 'A' :: ['p', 'i'] ∧
      isSeparator '2' = false ∧ isSeparator 'A' = false ∧ keptCount "HTTPServer/v".toList = 11 ∧
      wordIndex ((splitWords "HTTPServer/v2Api").map String.toList) 11 ≠
        wordIndex ((splitWords "HTTPServer/v2Api").map String.toList) 12 ∧
      isSeparator '.' = true ∧ splitWords "HTTP.Server.v2.Api" = splitWords "HTTPServer/v2Api" := by
  have hplace : "HTTPServer/v2Api".toList = "HTTPServer/v".toList ++ '2' :: 'A' :: ['p', 'i'] := by decide
  have hjoined : (String.singleton '.').intercalate (splitWords "HTTPServer/v2Api") =
      "HTTP.Server.v2.Api" := by decide +kernel
  obtain ⟨-, -, hcuts, hstable⟩ := splitWords_segments "HTTPServer/v2Api"
  have hcut := hcuts _ '2' 'A' _ hplace (by decide) (by decide)
  refine ⟨hplace, by decide, by decide, by decide, ?cut, by decide, ?stable⟩
  case cut => exact hcut.2 ⟨by decide +kernel, .inr (.inl (by decide))⟩
  case stable => rw [← hjoined, hstable '.' (by decide)]

end RouteScaffold.Naming
