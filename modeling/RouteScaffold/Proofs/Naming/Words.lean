import RouteScaffold.Naming.Format
import RouteScaffold.Proofs.Text.Mapping

/-!
# Words and separators

The words of an identifier are its characters without the separators, and every spelling of words maps
letters to letters. So a spelling has only those marks that the identifier had and that its joints add.
-/

namespace List

/-- Where the items of a joined list come from. -/
theorem mem_intercalate_iff {α : Type} {x : α} {joint : List α} {parts : List (List α)} :
    x ∈ joint.intercalate parts ↔
      (x ∈ joint ∧ 2 ≤ parts.length) ∨ ∃ part ∈ parts, x ∈ part := by
  induction parts with
  | nil => simp
  | cons part rest ih =>
    cases rest with
    | nil => simp
    | cons next rest =>
      have hparts : (∃ p ∈ part :: next :: rest, x ∈ p) ↔ x ∈ part ∨ ∃ p ∈ next :: rest, x ∈ p := by
        simp
      have hlength : 2 ≤ (part :: next :: rest).length := Nat.le_add_left 2 rest.length
      rw [intercalate_cons_cons, mem_append, mem_append, ih, hparts]
      constructor
      · rintro ((hpart | hjoint) | ⟨hjoint, -⟩ | hrest)
        · exact .inr (.inl hpart)
        · exact .inl ⟨hjoint, hlength⟩
        · exact .inl ⟨hjoint, hlength⟩
        · exact .inr (.inr hrest)
      · rintro (⟨hjoint, -⟩ | hpart | hrest)
        · exact .inl (.inr hjoint)
        · exact .inl (.inl hpart)
        · exact .inr (.inr hrest)

end List

namespace RouteScaffold.Naming

open Text (IsMark)

theorem isMark_of_isSeparator {c : Char} (h : isSeparator c = true) : IsMark c := by
  simp only [isSeparator, Bool.or_eq_true, beq_iff_eq] at h
  obtain ((((rfl | rfl) | rfl) | rfl) | rfl) | rfl := h
  all_goals decide

theorem flatten_extendFirst (c : Char) (words : List (List Char)) :
    (extendFirst c words).flatten = c :: words.flatten := by
  cases words with
  | nil => rfl
  | cons word words => rfl

/-- Nothing but the separators is lost in the words. -/
theorem flatten_wordsOf (s : List Char) :
    (wordsOf s).flatten = s.filter fun c => !isSeparator c := by
  induction s with
  | nil => rfl
  | cons c rest ih =>
    rw [wordsOf_cons]
    cases hsep : isSeparator c with
    | true => rw [if_pos rfl, ih, List.filter_cons_of_neg (by simp [hsep])]
    | false =>
      rw [if_neg Bool.false_ne_true, List.filter_cons_of_pos (by simp [hsep]), ← ih]
      split
      · rfl
      · exact flatten_extendFirst c (wordsOf rest)

theorem mem_of_mem_wordsOf {s word : List Char} {c : Char} (hword : word ∈ wordsOf s)
    (hc : c ∈ word) : c ∈ s ∧ isSeparator c = false := by
  have hflat : c ∈ (wordsOf s).flatten := List.mem_flatten.2 ⟨word, hword, hc⟩
  rw [flatten_wordsOf, List.mem_filter] at hflat
  simpa using hflat

section Marks

variable {mark : Char}

theorem mem_of_mem_style (hmark : IsMark mark) {style : WordStyle} {word : List Char}
    (h : mark ∈ style.apply word) : mark ∈ word := by
  cases style with
  | lower => exact hmark.mem_of_mem_lowerChars h
  | upper => exact hmark.mem_of_mem_upperChars h
  | title => exact hmark.mem_of_mem_lowerChars (hmark.mem_of_mem_titleChars h)

/-- A snake spelling has no separators but its own underscores. -/
theorem eq_underscore_of_mem_snakeChars {s : List Char} (hsep : isSeparator mark = true)
    (h : mark ∈ snakeChars s) : mark = '_' := by
  have hmark : IsMark mark := isMark_of_isSeparator hsep
  obtain ⟨hjoint, -⟩ | ⟨part, hpart, hmem⟩ := List.mem_intercalate_iff.1 h
  · exact List.mem_singleton.1 hjoint
  · obtain ⟨word, hword, rfl⟩ := List.mem_map.1 hpart
    have hnone := (mem_of_mem_wordsOf hword (hmark.mem_of_mem_lowerChars hmem)).2
    simp [hsep] at hnone

/-- Marks that are no separators stand in a snake spelling when they stand in the text. -/
theorem mem_snakeChars_iff (hmark : IsMark mark) (hsep : isSeparator mark = false) {s : List Char} :
    mark ∈ snakeChars s ↔ mark ∈ s := by
  have hjoint : mark ∉ ['_'] := by
    rw [List.mem_singleton]
    rintro rfl
    cases hsep
  have hwords : (∃ part ∈ (wordsOf s).map Text.lowerChars, mark ∈ part) ↔ mark ∈ s := by
    rw [← List.mem_flatten, ← List.flatMap_def, List.mem_flatMap]
    simp only [hmark.mem_lowerChars_iff]
    rw [← List.mem_flatten, flatten_wordsOf, List.mem_filter]
    simp [hsep]
  rw [snakeChars, List.mem_intercalate_iff, hwords, or_iff_right fun h => hjoint h.1]

variable {format : NamingFormat}

theorem length_styledWords (words : List (List Char)) :
    (format.styledWords words).length = words.length := by
  cases words with
  | nil => rfl
  | cons word words => simp [NamingFormat.styledWords]

theorem exists_mem_of_mem_styledWords {words : List (List Char)} {part : List Char}
    (h : part ∈ format.styledWords words) : ∃ style : WordStyle, ∃ word ∈ words, part = style.apply word := by
  cases words with
  | nil => cases h
  | cons word words =>
    rw [NamingFormat.styledWords, List.mem_cons, List.mem_map] at h
    obtain rfl | ⟨other, hother, rfl⟩ := h
    · exact ⟨format.first, word, List.mem_cons_self, rfl⟩
    · exact ⟨format.rest, other, List.mem_cons_of_mem word hother, rfl⟩

/-- A separator stands in a formatted name exactly where the format has it: at an end, or between two
words. -/
theorem mem_applyChars_iff {name : List Char} (hsep : isSeparator mark = true) :
    mark ∈ format.applyChars name ↔
      mark ∈ format.before ∨ mark ∈ format.after ∨
        mark ∈ format.separator ∧ 2 ≤ (wordsOf name).length := by
  have hmark : IsMark mark := isMark_of_isSeparator hsep
  have hwords : ¬ ∃ part ∈ format.styledWords (wordsOf name), mark ∈ part := by
    rintro ⟨part, hpart, hmem⟩
    obtain ⟨style, word, hword, rfl⟩ := exists_mem_of_mem_styledWords hpart
    have hnone := (mem_of_mem_wordsOf hword (mem_of_mem_style hmark hmem)).2
    simp [hsep] at hnone
  rw [NamingFormat.applyChars, List.mem_append, List.mem_append, List.mem_intercalate_iff,
    length_styledWords, or_iff_left hwords]
  constructor
  · rintro ((hbefore | hbetween) | hafter)
    · exact .inl hbefore
    · exact .inr (.inr hbetween)
    · exact .inr (.inl hafter)
  · rintro (hbefore | hafter | hbetween)
    · exact .inl (.inl hbefore)
    · exact .inr hafter
    · exact .inl (.inr hbetween)

end Marks

end RouteScaffold.Naming
