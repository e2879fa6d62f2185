import RouteScaffold.Proofs.Naming.Segmentation

/-!
# Pieces between separators

The pieces of a text are its longest runs without a separator. A text is cut into words piece by piece and
camel cased piece by piece. Texts without separators that are joined by separators, of whatever length,
are the pieces of what comes out.
-/

namespace RouteScaffold.Naming

/-- The longest runs of characters that are no separators. -/
def pieces (s : List Char) : List (List Char) :=
  (s.splitOnP isSeparator).filter fun piece => !piece.isEmpty

/-- A text that can be a piece: there is something to it, and it has no separator. -/
def IsPiece (piece : List Char) : Prop :=
  piece ≠ [] ∧ ∀ c ∈ piece, isSeparator c = false

variable {s piece joint : List Char} {parts : List (List Char)} {c : Char}

@[simp] theorem pieces_nil : pieces [] = [] := rfl

theorem pieces_append_cons (h : isSeparator c = true) (s t : List Char) :
    pieces (s ++ c :: t) = pieces s ++ pieces t := by
  rw [pieces, List.splitOnP_append_cons s t h, List.filter_append]
  rfl

theorem IsPiece.pieces_eq (h : IsPiece piece) : pieces piece = [piece] := by
  rw [pieces, List.splitOnP_eq_singleton h.2, List.filter_cons_of_pos (by simp [h.1]), List.filter_nil]

theorem isPiece_of_mem_wordsOf {word : List Char} (h : word ∈ wordsOf s) : IsPiece word :=
  ⟨ne_nil_of_mem_wordsOf h, fun _ hc => (mem_of_mem_wordsOf h hc).2⟩

/-- A text is empty or one piece, or it is cut at a separator. -/
theorem pieces_induction {motive : List Char → Prop} (nil : motive [])
    (whole : ∀ piece, IsPiece piece → motive piece)
    (cut : ∀ c, isSeparator c = true → ∀ s t, motive s → motive t → motive (s ++ c :: t))
    (s : List Char) : motive s := by
  by_cases hkept : ∀ c ∈ s, isSeparator c = false
  · by_cases hs : s = []
    · rwa [hs]
    · exact whole s ⟨hs, hkept⟩
  · simp only [Classical.not_forall, Bool.not_eq_false] at hkept
    obtain ⟨c, hc, hsep⟩ := hkept
    obtain ⟨before, after, rfl⟩ := List.append_of_mem hc
    exact cut c hsep before after (pieces_induction nil whole cut before)
      (pieces_induction nil whole cut after)
termination_by s.length

/-- A reading that separators cut goes piece by piece. -/
theorem eq_flatMap_pieces {α : Type} {f g : List Char → List α} (hnil : f [] = [])
    (hpiece : ∀ piece, IsPiece piece → f piece = g piece)
    (hcut : ∀ c, isSeparator c = true → ∀ s t, f (s ++ c :: t) = f s ++ f t) (s : List Char) :
    f s = (pieces s).flatMap g := by
  induction s using pieces_induction with
  | nil => exact hnil
  | whole piece h => rw [h.pieces_eq, List.flatMap_singleton, hpiece piece h]
  | cut c hc s t hs ht => rw [hcut c hc, pieces_append_cons hc, List.flatMap_append, hs, ht]

theorem wordsOf_eq_flatMap (s : List Char) : wordsOf s = (pieces s).flatMap wordsOf :=
  eq_flatMap_pieces rfl (fun _ _ => rfl) (fun _ h => wordsOf_append_cons h) s

theorem camelChars_eq_flatMap (s : List Char) : camelChars s = (pieces s).flatMap Text.titleChars := by
  refine eq_flatMap_pieces rfl ?_ ?_ s
  · intro piece hpiece
    rw [camelChars, List.splitOnP_eq_singleton hpiece.2, List.flatMap_singleton]
  · intro c hc s t
    rw [camelChars, List.splitOnP_append_cons s t hc, List.flatMap_append]
    rfl

theorem pieces_eq_nil_iff : pieces s = [] ↔ ∀ c ∈ s, isSeparator c = true := by
  induction s using pieces_induction with
  | nil => simp
  | whole piece h =>
    obtain ⟨c, hc⟩ := List.exists_mem_of_ne_nil piece h.1
    have hkept : ¬ ∀ d ∈ piece, isSeparator d = true := by
      intro hsep
      exact Bool.false_ne_true ((h.2 c hc).symm.trans (hsep c hc))
    rw [h.pieces_eq]
    exact iff_of_false (List.cons_ne_nil piece []) hkept
  | cut c hc s t hs ht =>
    rw [pieces_append_cons hc, List.append_eq_nil_iff, hs, ht, List.forall_mem_append, List.forall_mem_cons]
    exact and_congr_right fun _ => (and_iff_right hc).symm

theorem isPiece_of_mem_pieces (h : piece ∈ pieces s) : IsPiece piece := by
  induction s using pieces_induction with
  | nil => cases h
  | whole whole hwhole =>
    rw [hwhole.pieces_eq] at h
    rwa [List.mem_singleton.1 h]
  | cut c hc s t hs ht =>
    rw [pieces_append_cons hc, List.mem_append] at h
    exact h.elim hs ht

/-- A text has a camel spelling as soon as it has something between its separators. -/
theorem camelChars_eq_nil_iff : camelChars s = [] ↔ ∀ c ∈ s, isSeparator c = true := by
  rw [← pieces_eq_nil_iff, camelChars_eq_flatMap, List.flatMap_eq_nil_iff]
  constructor
  · intro h
    apply List.eq_nil_iff_forall_not_mem.2
    intro piece hpiece
    exact Text.titleChars_ne_nil (isPiece_of_mem_pieces hpiece).1 (h piece hpiece)
  · intro h
    rw [h]
    exact List.forall_mem_nil _

theorem camelCase_eq_empty_iff {x : String} : camelCase x = "" ↔ ∀ c ∈ x.toList, isSeparator c = true := by
  rw [camelCase, String.ofList_eq_empty_iff, camelChars_eq_nil_iff]

/-- No letter has a separator for its capital, so a camel spelling has none. -/
theorem isSeparator_of_mem_camelChars (h : c ∈ camelChars s) : isSeparator c = false := by
  rw [camelChars_eq_flatMap] at h
  obtain ⟨piece, hpiece, hc⟩ := List.mem_flatMap.1 h
  rw [Bool.eq_false_iff]
  intro hsep
  have hmem := (isMark_of_isSeparator hsep).mem_of_mem_titleChars hc
  have hkept := (isPiece_of_mem_pieces hpiece).2 c hmem
  rw [hsep] at hkept
  cases hkept

/-! ### Joined pieces -/

theorem pieces_append_of_isSeparator (hjoint : ∀ c ∈ joint, isSeparator c = true) (s : List Char) :
    pieces (joint ++ s) = pieces s := by
  induction joint with
  | nil => rfl
  | cons c joint ih =>
    obtain ⟨hc, hrest⟩ := List.forall_mem_cons.1 hjoint
    exact (pieces_append_cons hc [] (joint ++ s)).trans (ih hrest)

/-- Pieces that are joined by separators are read back. -/
theorem pieces_intercalate (hne : joint ≠ []) (hjoint : ∀ c ∈ joint, isSeparator c = true)
    (h : ∀ part ∈ parts, IsPiece part) : pieces (joint.intercalate parts) = parts := by
  obtain ⟨c, more, rfl⟩ := List.exists_cons_of_ne_nil hne
  obtain ⟨hc, hmore⟩ := List.forall_mem_cons.1 hjoint
  induction parts with
  | nil => rfl
  | cons part parts ih =>
    obtain ⟨hpart, hrest⟩ := List.forall_mem_cons.1 h
    cases parts with
    | nil => rw [List.intercalate_singleton, hpart.pieces_eq]
    | cons next others =>
      rw [List.intercalate_cons_cons, List.append_assoc, List.cons_append, pieces_append_cons hc,
        pieces_append_of_isSeparator hmore, hpart.pieces_eq, ih hrest]
      rfl

/-! ### Styled words -/

theorem IsPiece.apply_style {word : List Char} (h : IsPiece word) (style : WordStyle) :
    IsPiece (style.apply word) := by
  constructor
  · cases style with
    | lower => exact Text.lowerChars_ne_nil h.1
    | upper => exact Text.upperChars_ne_nil h.1
    | title => exact Text.titleChars_ne_nil (Text.lowerChars_ne_nil h.1)
  · intro c hc
    rw [Bool.eq_false_iff]
    intro hsep
    have hkept := h.2 c (mem_of_mem_style (isMark_of_isSeparator hsep) hc)
    rw [hsep] at hkept
    cases hkept

end RouteScaffold.Naming
