import RouteScaffold.Proofs.Naming.Pieces

/-!
# File stems read back

A naming format writes an identifier as its words, the first in one style and the others in another, with
the separator of the format between them. Styles keep words free of separators. So when the format joins
words by separators, the pieces of what stands between its ends are the styled words, and two identifiers
get one file stem only when their styled words agree.

The main statement is `apply_decodes`.
-/

namespace RouteScaffold.Naming

variable {format : NamingFormat}

theorem isPiece_of_mem_styledWords {s part : List Char} (h : part ∈ format.styledWords (wordsOf s)) :
    IsPiece part := by
  obtain ⟨style, word, hword, rfl⟩ := exists_mem_of_mem_styledWords h
  exact (isPiece_of_mem_wordsOf hword).apply_style style

namespace NamingFormat

/-- The styled words of an identifier: the first word in one style, all others in the other. -/
def styled (format : NamingFormat) (name : String) : List String :=
  (splitWords name).mapIdx fun place word =>
    String.ofList ((if place = 0 then format.first else format.rest).apply word.toList)

theorem getElem?_styledWords (format : NamingFormat) (words : List (List Char)) (place : Nat) :
    (format.styledWords words)[place]? =
      words[place]?.map (if place = 0 then format.first else format.rest).apply := by
  cases words with
  | nil => rfl
  | cons word words =>
    cases place with
    | zero => rfl
    | succ place => simp [styledWords]

theorem map_toList_styled (format : NamingFormat) (name : String) :
    (format.styled name).map String.toList = format.styledWords (wordsOf name.toList) := by
  apply List.ext_getElem?
  intro place
  simp [styled, splitWords, getElem?_styledWords, Function.comp_def]

theorem apply_eq (format : NamingFormat) (name : String) :
    format.apply name = String.ofList format.before ++
      (String.ofList format.separator).intercalate (format.styled name) ++ String.ofList format.after := by
  rw [← String.toList_inj, toList_apply, applyChars]
  simp only [String.toList_append, String.toList_intercalate, String.toList_ofList, map_toList_styled]

/-- What stands between the ends of a file stem can be cut into the styled words. -/
theorem pieces_joined (hne : format.separator ≠ []) (hsep : ∀ c ∈ format.separator, isSeparator c = true)
    (name : List Char) :
    pieces (format.separator.intercalate (format.styledWords (wordsOf name))) =
      format.styledWords (wordsOf name) :=
  pieces_intercalate hne hsep fun _ => isPiece_of_mem_styledWords

theorem apply_inj (hne : format.separator ≠ []) (hsep : ∀ c ∈ format.separator, isSeparator c = true)
    (s t : String) : format.apply s = format.apply t ↔ format.styled s = format.styled t := by
  constructor
  · intro h
    have hchars := congrArg String.toList h
    rw [toList_apply, toList_apply, applyChars, applyChars, List.append_left_inj,
      List.append_right_inj] at hchars
    have hwords := congrArg pieces hchars
    rw [pieces_joined hne hsep, pieces_joined hne hsep, ← map_toList_styled, ← map_toList_styled] at hwords
    exact (List.map_inj_right fun _ _ => String.toList_inj.1).1 hwords
  · intro h
    rw [apply_eq, apply_eq, h]

/-- The format `go_zero`. -/
def underscored : NamingFormat where
  separator := ['_']

theorem parse_underscored : parse "go_zero" = .ok underscored := by
  rfl

theorem apply_underscored (name : String) : underscored.apply name = snakeCase name := by
  rw [← String.toList_inj, toList_apply, toList_snakeCase, applyChars, snakeChars, underscored,
    List.nil_append, List.append_nil]
  cases wordsOf name.toList with
  | nil => rfl
  | cons word words => rfl

/-- A file stem is the styled words, joined by the separator of the format, between its ends. With a
separator that also separates words, identifiers share a file stem exactly when they have the same styled
words. The stems of `go_zero` are the snake spellings. -/
theorem apply_decodes :
    (∀ (format : NamingFormat) (name : String), format.apply name =
        String.ofList format.before ++
          (String.ofList format.separator).intercalate (format.styled name) ++
          String.ofList format.after) ∧
      (∀ format : NamingFormat, format.separator ≠ [] → (∀ c ∈ format.separator, isSeparator c = true) →
        ∀ s t, format.apply s = format.apply t ↔ format.styled s = format.styled t) ∧
      ∃ format, parse "go_zero" = .ok format ∧ ∀ name, format.apply name = snakeCase name :=
  ⟨apply_eq, fun _ => apply_inj, underscored, parse_underscored, apply_underscored⟩

theorem dashed_decodes :
    ∃ format, parse "_GO-.Zero" = .ok format ∧ format.separator ≠ [] ∧
      (∀ c ∈ format.separator, isSeparator c = true) ∧
      format.apply "listAllV2" = format.apply "list all/V2" ∧
      format.apply "listAllV2" ≠ format.apply "listallV2" := by
  let format : NamingFormat :=
    { before := ['_'], first := .upper, separator := ['-', '.'], rest := .title }
  have hsep : ∀ c ∈ format.separator, isSeparator c = true := List.all_eq_true.1 (by decide)
  have hdecode := apply_decodes.2.1 format (by decide) hsep
  refine ⟨format, by rfl, by decide, hsep, ?same, ?apart⟩
  case same => exact (hdecode _ _).2 (by decide +kernel)
  case apart =>
    rw [Ne, hdecode]
    decide +kernel

end NamingFormat

end RouteScaffold.Naming
