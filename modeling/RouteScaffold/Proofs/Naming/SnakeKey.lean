import RouteScaffold.Proofs.Naming.Pieces
import RouteScaffold.Proofs.Naming.Seams

/-!
# Snake keys

A snake spelling is a key: its only separators are underscores, and it is as short as a text with its pieces
can be, so it has none at an end and no two in a row. Nothing but separators leaves an empty key. In an ASCII
key no capital is left to cut at, so the key has the words it was made of and is its own snake spelling.

The main statement is `snakeCase_canonical`.
-/

namespace RouteScaffold.Naming

open Text (IsAscii)

/-- The form of the snake spellings: words with single underscores between them. -/
structure IsSnakeKey (key : List Char) : Prop where
  eq_underscore : ∀ c ∈ key, isSeparator c = true → c = '_'
  head?_ne : key.head? ≠ some '_'
  getLast?_ne : key.getLast? ≠ some '_'
  not_doubled : ¬ ['_', '_'] <:+: key

/-! ### Single joints -/

section Joints

variable (joint : Char)

theorem length_intercalate_append_le (parts more : List (List Char)) :
    ([joint].intercalate (parts ++ more)).length ≤
      ([joint].intercalate parts).length + 1 + ([joint].intercalate more).length := by
  induction parts with
  | nil => simp
  | cons part parts ih =>
    cases parts with
    | nil =>
      cases more with
      | nil => simp
      | cons next others =>
        simp only [List.singleton_append, List.intercalate_cons_cons, List.intercalate_singleton,
          List.length_append, List.length_singleton, Nat.le_refl]
    | cons next others =>
      simp only [List.cons_append, List.intercalate_cons_cons, List.length_append] at ih ⊢
      omega

/-- No text is shorter than its pieces with single joints between them. -/
theorem length_intercalate_pieces_le (s : List Char) :
    ([joint].intercalate (pieces s)).length ≤ s.length := by
  induction s using pieces_induction with
  | nil => exact Nat.le_refl 0
  | whole piece h => exact Nat.le_of_eq (by rw [h.pieces_eq, List.intercalate_singleton])
  | cut c hc s t hs ht =>
    have hjoined := length_intercalate_append_le joint (pieces s) (pieces t)
    rw [pieces_append_cons hc, List.length_append, List.length_cons]
    omega

end Joints

/-! ### Spellings as keys -/

variable {s : List Char}

theorem isSeparator_underscore : isSeparator '_' = true := by decide

theorem pieces_append_underscore (s t : List Char) : pieces (s ++ '_' :: t) = pieces s ++ pieces t :=
  pieces_append_cons isSeparator_underscore s t

theorem isPiece_of_mem_map_lowerChars {part : List Char}
    (h : part ∈ (wordsOf s).map Text.lowerChars) : IsPiece part := by
  obtain ⟨word, hword, rfl⟩ := List.mem_map.1 h
  exact (isPiece_of_mem_wordsOf hword).apply_style .lower

theorem pieces_snakeChars (s : List Char) : pieces (snakeChars s) = (wordsOf s).map Text.lowerChars :=
  pieces_intercalate (List.cons_ne_nil _ _) (List.forall_mem_singleton.2 isSeparator_underscore)
    fun _ => isPiece_of_mem_map_lowerChars

theorem length_snakeChars_le {t : List Char} (h : pieces t = pieces (snakeChars s)) :
    (snakeChars s).length ≤ t.length := by
  have hshortest := length_intercalate_pieces_le '_' t
  rwa [h, pieces_snakeChars] at hshortest

/-- No underscore of a snake spelling could be left out: the pieces would be the same. -/
theorem isSnakeKey_snakeChars (s : List Char) : IsSnakeKey (snakeChars s) := by
  have hshortest : ∀ t, pieces t = pieces (snakeChars s) → (snakeChars s).length ≤ t.length :=
    fun t => length_snakeChars_le
  have hseparators : ∀ c ∈ snakeChars s, isSeparator c = true → c = '_' :=
    fun c hc hsep => eq_underscore_of_mem_snakeChars hsep hc
  generalize snakeChars s = key at hshortest hseparators
  refine ⟨hseparators, ?head, ?last, ?doubled⟩
  case head =>
    intro hhead
    obtain ⟨rest, rfl⟩ := List.head?_eq_some_iff.1 hhead
    exact Nat.not_succ_le_self _ (hshortest rest (pieces_append_underscore [] rest).symm)
  case last =>
    intro hlast
    obtain ⟨init, rfl⟩ := List.getLast?_eq_some_iff.1 hlast
    have hinit := hshortest init (by rw [pieces_append_underscore, pieces_nil, List.append_nil])
    rw [List.length_append] at hinit
    exact Nat.not_succ_le_self _ hinit
  case doubled =>
    rintro ⟨before, after, rfl⟩
    have hsingle := hshortest (before ++ '_' :: after) (by
      rw [List.append_assoc, pieces_append_underscore, List.cons_append, pieces_append_underscore]
      exact congrArg (pieces before ++ ·) (pieces_append_underscore [] after).symm)
    simp only [List.length_append, List.length_cons, List.length_nil] at hsingle
    omega

theorem wordsOf_eq_nil_iff : wordsOf s = [] ↔ ∀ c ∈ s, isSeparator c = true := by
  constructor
  · intro hnil c hc
    rw [← Bool.not_eq_false]
    intro hkept
    exact wordsOf_ne_nil ⟨c, hc, hkept⟩ hnil
  · intro hsep
    apply List.eq_nil_iff_forall_not_mem.2
    intro word hword
    obtain ⟨c, hc⟩ := List.exists_mem_of_ne_nil word (ne_nil_of_mem_wordsOf hword)
    obtain ⟨hmem, hkept⟩ := mem_of_mem_wordsOf hword hc
    rw [hsep c hmem] at hkept
    cases hkept

theorem snakeChars_eq_nil_iff : snakeChars s = [] ↔ ∀ c ∈ s, isSeparator c = true := by
  rw [← wordsOf_eq_nil_iff]
  constructor
  · intro hnil
    have hwords := pieces_snakeChars s
    rw [hnil, pieces_nil] at hwords
    exact List.map_eq_nil_iff.1 hwords.symm
  · intro hnil
    rw [snakeChars, hnil]
    rfl

/-! ### Texts without capitals -/

theorem isUppercase_toLower {c : Char} (hc : c.toNat < 128) : Text.isUppercase c.toLower = false :=
  Text.forall_ascii (P := fun c => Text.isUppercase c.toLower = false) (by decide +kernel) hc

/-- Without a capital there is nothing to cut at. -/
theorem wordsOf_of_no_capital (h : IsPiece s) (hcase : ∀ c ∈ s, Text.isUppercase c = false) :
    wordsOf s = [s] := by
  obtain ⟨hne, hkept⟩ := h
  induction s with
  | nil => exact absurd rfl hne
  | cons c rest ih =>
    obtain ⟨hc, hrest⟩ := List.forall_mem_cons.1 hkept
    have hcapital := (List.forall_mem_cons.1 hcase).2
    rw [wordsOf_cons, hc, if_neg Bool.false_ne_true]
    cases rest with
    | nil => rfl
    | cons d more =>
      have hends : endsWord c (d :: more) = false := by
        rw [endsWord, hrest d List.mem_cons_self, startsWord, hcapital d List.mem_cons_self]
        rfl
      rw [hends, if_neg Bool.false_ne_true, ih hcapital (List.cons_ne_nil d more) hrest]
      rfl

section Ascii

variable (hs : IsAscii s)
include hs

theorem isUppercase_of_mem_part {part : List Char} (h : part ∈ (wordsOf s).map Text.lowerChars) {c : Char}
    (hc : c ∈ part) : Text.isUppercase c = false := by
  obtain ⟨word, hword, rfl⟩ := List.mem_map.1 h
  rw [Text.lowerChars_eq_map (isAscii_of_mem_wordsOf hs hword)] at hc
  obtain ⟨letter, hletter, rfl⟩ := List.mem_map.1 hc
  exact isUppercase_toLower (isAscii_of_mem_wordsOf hs hword letter hletter)

theorem isUppercase_of_mem_snakeChars {c : Char} (h : c ∈ snakeChars s) : Text.isUppercase c = false := by
  obtain ⟨hjoint, -⟩ | ⟨part, hpart, hc⟩ := List.mem_intercalate_iff.1 h
  · rw [List.mem_singleton.1 hjoint]
    decide
  · exact isUppercase_of_mem_part hs hpart hc

/-- An ASCII key has the words that it was made of, in small letters. -/
theorem wordsOf_snakeChars : wordsOf (snakeChars s) = (wordsOf s).map Text.lowerChars :=
  wordsOf_intercalate isSeparator_underscore fun _ hpart =>
    wordsOf_of_no_capital (isPiece_of_mem_map_lowerChars hpart) fun _ => isUppercase_of_mem_part hs hpart

theorem snakeChars_snakeChars : snakeChars (snakeChars s) = snakeChars s := by
  rw [snakeChars, wordsOf_snakeChars hs, List.map_map]
  congr 1
  exact List.map_congr_left fun word hword =>
    Text.lowerChars_lowerChars (isAscii_of_mem_wordsOf hs hword)

end Ascii

/-- A snake spelling is a key: its only separators are underscores, none at an end and no two in a row.
It is empty exactly when there is nothing but separators to spell. From ASCII it comes without capitals, and
it is its own snake spelling. -/
theorem snakeCase_canonical (s : String) :
    IsSnakeKey (snakeCase s).toList ∧
      (snakeCase s = "" ↔ ∀ c ∈ s.toList, isSeparator c = true) ∧
      (IsAscii s.toList →
        (∀ c ∈ (snakeCase s).toList, Text.isUppercase c = false) ∧
          snakeCase (snakeCase s) = snakeCase s) := by
  refine ⟨?key, ?empty, fun hs => ⟨?small, ?own⟩⟩
  case key =>
    rw [toList_snakeCase]
    exact isSnakeKey_snakeChars s.toList
  case empty => rw [snakeCase, String.ofList_eq_empty_iff, snakeChars_eq_nil_iff]
  case small =>
    rw [toList_snakeCase]
    exact fun c => isUppercase_of_mem_snakeChars hs
  case own => rw [← String.toList_inj, toList_snakeCase, toList_snakeCase, snakeChars_snakeChars hs]

theorem mixedKey_canonical :
    IsAscii "/HTTPServer..getV2-IDs_".toList ∧
      snakeCase "/HTTPServer..getV2-IDs_" = "http_server_get_v2_i_ds" ∧
      IsSnakeKey "http_server_get_v2_i_ds".toList ∧
      snakeCase "http_server_get_v2_i_ds" = "http_server_get_v2_i_ds" := by
  have hascii : IsAscii "/HTTPServer..getV2-IDs_".toList := by decide
  have hspelled : snakeCase "/HTTPServer..getV2-IDs_" = "http_server_get_v2_i_ds" := by decide +kernel
  obtain ⟨hkey, -, hown⟩ := snakeCase_canonical "/HTTPServer..getV2-IDs_"
  rw [hspelled] at hkey hown
  exact ⟨hascii, hspelled, hkey, (hown hascii).2⟩

end RouteScaffold.Naming
