import RouteScaffold.Naming.Subject
import RouteScaffold.Proofs.Naming.Pieces

/-!
# Subjects

How the spellings of a subject hang together.
-/

namespace RouteScaffold

/-- The spellings belong to one annotation value, and the identifier is not empty. -/
structure Subject.Spelled (subject : Subject) : Prop where
  ident_eq : subject.ident =
    Naming.camelCase (.ofList (Subject.singular subject.raw.toList))
  ident_ne_empty : subject.ident ≠ ""
  snake_eq : subject.snake = Naming.snakeCase subject.ident
  policyKey_eq : subject.policyKey = Naming.snakeCase subject.raw

theorem Subject.spelled_of_ofRaw? {raw : String} {subject : Subject}
    (h : Subject.ofRaw? raw = some subject) : subject.Spelled := by
  simp only [ofRaw?, beq_iff_eq, Option.ite_none_left_eq_some, Option.some.injEq] at h
  obtain ⟨hident, rfl⟩ := h
  exact ⟨rfl, hident, rfl, rfl⟩

/-- An annotation names no subject when nothing but separators is left without its plural. -/
theorem Subject.ofRaw?_eq_none_iff {raw : String} :
    ofRaw? raw = none ↔ ∀ c ∈ singular raw.toList, Naming.isSeparator c = true := by
  have hident : Naming.camelCase (.ofList (singular raw.toList)) = "" ↔
      ∀ c ∈ singular raw.toList, Naming.isSeparator c = true := by
    rw [Naming.camelCase_eq_empty_iff, String.toList_ofList]
  rw [← hident]
  simp only [ofRaw?, beq_iff_eq, ite_eq_left_iff, reduceCtorEq, imp_false, Decidable.not_not]

/-- One character that is no separator is enough for a subject. -/
theorem Subject.exists_ofRaw? {raw : String} {c : Char} (hc : c ∈ singular raw.toList)
    (hkept : Naming.isSeparator c = false) :
    ∃ subject, ofRaw? raw = some subject ∧ subject.policyKey = Naming.snakeCase raw ∧
      subject.snake = Naming.snakeCase (Naming.camelCase (.ofList (singular raw.toList))) := by
  have hident : Naming.camelCase (.ofList (singular raw.toList)) ≠ "" := by
    rw [Ne, Naming.camelCase_eq_empty_iff, String.toList_ofList]
    intro hsep
    rw [hsep c hc] at hkept
    cases hkept
  rw [ofRaw?, if_neg (by simpa using hident)]
  exact ⟨_, rfl, rfl, rfl⟩

theorem Group.spelled_of_subject? {group : Group} {cfg : Config} {subject : Subject}
    (h : group.subject? cfg = some subject) : subject.Spelled := by
  obtain ⟨raw, -, hraw⟩ := Option.bind_eq_some_iff.1 h
  exact Subject.spelled_of_ofRaw? hraw

theorem RouteGraph.spelled_of_mem_guarded {graph : RouteGraph} {cfg : Config}
    {guarded : GuardedGroup} (h : guarded ∈ graph.guarded cfg) : guarded.subject.Spelled := by
  obtain ⟨placed, -, hplaced⟩ := List.mem_filterMap.1 h
  obtain ⟨subject, hsubject, rfl⟩ := Option.map_eq_some_iff.1 hplaced
  exact Group.spelled_of_subject? hsubject

/-- The first letter of an identifier is a capital, or it has no case. -/
theorem Naming.isLower_of_head?_camelChars {s : List Char} {c : Char}
    (h : (Naming.camelChars s).head? = some c) : c.isLower = false := by
  unfold camelChars at h
  generalize s.splitOnP isSeparator = pieces at h
  induction pieces with
  | nil => cases h
  | cons piece pieces ih =>
    rw [List.flatMap_cons] at h
    cases piece with
    | nil => exact ih h
    | cons first rest =>
      obtain ⟨upper, more, hupper⟩ := List.exists_cons_of_ne_nil (Text.upperChar_ne_nil first)
      rw [Text.titleChars_cons, hupper] at h
      cases h
      exact Text.isLower_of_mem_upperChar (hupper ▸ List.mem_cons_self)

theorem Subject.Spelled.ident_ne_append {subject : Subject} (h : subject.Spelled) {lead : String}
    (hlead : lead.toList.head?.any Char.isLower = true) (tail : String) :
    subject.ident ≠ lead ++ tail := by
  intro heq
  rw [h.ident_eq] at heq
  have hchars := congrArg String.toList heq
  rw [Naming.toList_camelCase, String.toList_append] at hchars
  cases hhead : lead.toList with
  | nil =>
    rw [hhead] at hlead
    cases hlead
  | cons c rest =>
    rw [hhead] at hchars hlead
    have hlower := Naming.isLower_of_head?_camelChars (congrArg List.head? hchars)
    rw [List.head?_cons, Option.any_some, hlower] at hlead
    cases hlead

end RouteScaffold
