import RouteScaffold.Proofs.Authorization.Actions
import RouteScaffold.Proofs.Plan.Emission

/-!
# Subjects and their files

A subject comes from free text, and its spelling is the name of a generated file. Whatever the text, its
separators are gone from the identifier, and the snake spellings have none but the underscores between their
words. So an annotation full of slashes and dots still gives one file in the folder of the interfaces.

The main statement is `subject?_confined`.
-/

namespace RouteScaffold

namespace Subject

/-- A text and the same text without the plural letter at its end, if it has one. -/
inductive Singularizes : List Char → List Char → Prop where
  | plural (word : List Char) : Singularizes (word ++ ['s']) word
  | singular {word : List Char} (last : word.getLast? ≠ some 's') : Singularizes word word

theorem singularizes_iff {raw word : List Char} : Singularizes raw word ↔ singular raw = word := by
  unfold singular
  constructor
  · rintro (_ | hlast)
    · simp
    · simp [hlast]
  · rintro rfl
    by_cases hlast : raw.getLast? = some 's'
    · obtain ⟨word, rfl⟩ := List.getLast?_eq_some_iff.1 hlast
      simpa using Singularizes.plural word
    · simpa [hlast] using Singularizes.singular hlast

/-- No separator is left in the identifier, and the two keys are snake keys with something in them. -/
structure WellFormed (subject : Subject) : Prop where
  ident : ∀ c ∈ subject.ident.toList, Naming.isSeparator c = false
  ident_ne : subject.ident ≠ ""
  snake : Naming.IsSnakeKey subject.snake.toList
  snake_ne : subject.snake ≠ ""
  policyKey : Naming.IsSnakeKey subject.policyKey.toList
  policyKey_ne : subject.policyKey ≠ ""

theorem Spelled.wellFormed {subject : Subject} (h : subject.Spelled) : subject.WellFormed where
  ident := by
    rw [h.ident_eq, Naming.toList_camelCase]
    exact fun c => Naming.isSeparator_of_mem_camelChars
  ident_ne := h.ident_ne_empty
  snake := by
    rw [h.snake_eq, Naming.toList_snakeCase]
    exact Naming.isSnakeKey_snakeChars subject.ident.toList
  snake_ne := h.snake_ne_empty
  policyKey := by
    rw [h.policyKey_eq, Naming.toList_snakeCase]
    exact Naming.isSnakeKey_snakeChars subject.raw.toList
  policyKey_ne := h.policyKey_ne_empty

end Subject

variable {group : Group} {cfg : Config} {subject : Subject}

theorem Annotations.find?_eq_some_iff {annotations : Annotations} {key raw : String} :
    annotations.find? key = some raw ↔
      raw ≠ "" ∧ ∃ written, annotations.get? key = some written ∧ Text.trim written = raw := by
  rw [find?, Option.filter_eq_some_iff, Option.map_eq_some_iff, decide_eq_true_iff, and_comm]

namespace Group

theorem isSome_subject?_iff :
    (group.subject? cfg).isSome = true ↔
      ∃ written word, group.annotations.get? cfg.annotations.auth = some written ∧
        Subject.Singularizes (Text.trim written).toList word ∧
          ∃ c ∈ word, Naming.isSeparator c = false := by
  rw [Option.isSome_iff_ne_none, Ne, subject?_eq_none_iff]
  simp only [Subject.singularizes_iff, not_forall, Bool.not_eq_true, exists_prop]
  constructor
  · rintro ⟨raw, hraw, c, hc, hkept⟩
    obtain ⟨-, written, hwritten, rfl⟩ := Annotations.find?_eq_some_iff.1 hraw
    exact ⟨written, _, hwritten, rfl, c, hc, hkept⟩
  · rintro ⟨written, word, hwritten, rfl, c, hc, hkept⟩
    refine ⟨_, Annotations.find?_eq_some_iff.2 ⟨?_, written, hwritten, rfl⟩, c, hc, hkept⟩
    -- A blank annotation has no character to show.
    intro hblank
    rw [hblank] at hc
    cases hc

/-- A group has a subject exactly when its annotation, without blanks and plural, has more than separators.
The subject is then well-formed, and its interface is one file directly in the folder of the interfaces. -/
theorem subject?_confined (group : Group) (cfg : Config) :
    ((group.subject? cfg).isSome = true ↔
      ∃ written word, group.annotations.get? cfg.annotations.auth = some written ∧
        Subject.Singularizes (Text.trim written).toList word ∧
          ∃ c ∈ word, Naming.isSeparator c = false) ∧
      (group.subject? cfg = none → ∀ index renderer,
        (PlacedGroup.mk index group).emitAuth? cfg renderer = .ok none) ∧
      ∀ subject, group.subject? cfg = some subject →
        subject.WellFormed ∧
          ∀ index renderer face?, (PlacedGroup.mk index group).emitAuth? cfg renderer = .ok face? →
            ∃ artifact, face? = some artifact ∧
              artifact.path.text = "internal/auth/" ++ subject.snake ++ ".go" ∧
                artifact.path.components =
                  [.name "internal", .name "auth", .name (subject.snake ++ ".go")] := by
  refine ⟨isSome_subject?_iff, fun hnone _ _ => PlacedGroup.emitAuth?_of_unguarded hnone, ?_⟩
  intro subject hsubject
  have hspelled := spelled_of_subject? hsubject
  refine ⟨hspelled.wellFormed, fun index renderer face? hface => ?_⟩
  obtain ⟨artifact, rfl, hslot⟩ := PlacedGroup.exists_slot_of_emitAuth? hsubject hface
  have hpath : artifact.path = subject.authPath := congrArg Prod.snd hslot
  refine ⟨artifact, rfl, ?_, ?_⟩
  · rw [hpath, hspelled.authPath_eq]
  · rw [hpath, hspelled.components_authPath]

end Group

/-- An annotation that looks like a way out of the folder. -/
def climbingGroup : Group where
  annotations := .ofList [("group", " ../Admin//User.Roles ")]
  routes := [{ handler := "list" }]

theorem climbingGroup_subject_confined :
    ∃ subject artifact, climbingGroup.subject? {} = some subject ∧ subject.WellFormed ∧
      subject.ident = "AdminUserRole" ∧ subject.policyKey = "admin_user_roles" ∧
        (PlacedGroup.mk 0 climbingGroup).emitAuth? {} .builtIn = .ok (some artifact) ∧
          artifact.path.text = "internal/auth/admin_user_role.go" := by
  obtain ⟨face?, hface⟩ : ∃ face?,
      (PlacedGroup.mk 0 climbingGroup).emitAuth? {} .builtIn = .ok face? :=
    Except.isOk_eq_true_iff.1 (by decide +kernel)
  have hsubject : climbingGroup.subject? {} = some
      { raw := "../Admin//User.Roles", ident := "AdminUserRole", snake := "admin_user_role",
        policyKey := "admin_user_roles" } := by decide +kernel
  obtain ⟨-, -, hconfined⟩ := Group.subject?_confined climbingGroup {}
  obtain ⟨hformed, hfile⟩ := hconfined _ hsubject
  obtain ⟨artifact, rfl, htext, -⟩ := hfile 0 .builtIn face? hface
  exact ⟨_, artifact, hsubject, hformed, rfl, rfl, hface, htext⟩

end RouteScaffold
