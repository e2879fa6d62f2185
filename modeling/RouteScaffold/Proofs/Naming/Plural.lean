import Mathlib.Data.List.TakeWhile
import RouteScaffold.Proofs.Naming.CamelWords
import RouteScaffold.Proofs.Text.Classes

/-!
# The plural letter of an annotation

A group is annotated with a plural, and its policy key is spelled from the plural as a whole. One more small
letter at the end of a text changes what the last capital sees behind it. Where two capitals end the singular,
the last of them leaves its word and takes the plural letter along, so that `IDs` is spelled `i_ds`. Everywhere
else the letter joins the last word, and the key is that of the singular with the letter at its end.

The main statement is `policyKey_plural`.
-/

namespace List

theorem intercalate_concat {α : Type} (joint : List α) (parts : List (List α)) (last : List α) :
    joint.intercalate (parts ++ [last]) = parts.flatMap (· ++ joint) ++ last := by
  induction parts with
  | nil => simp
  | cons part parts ih =>
    have hne : parts ++ [last] ≠ [] := by simp
    rw [cons_append, intercalate_cons_of_ne_nil hne, ih, flatMap_cons]
    simp only [append_assoc]

end List

namespace RouteScaffold

namespace Text

variable {c : Char} {s t : List Char}

theorem isCaseIgnorable_of_isAlphanum (h : c.isAlphanum = true) : isCaseIgnorable c = false :=
  forall_ascii (P := fun c => c.isAlphanum = true → isCaseIgnorable c = false) (by decide +kernel)
    (toNat_lt_of_isAlphanum h) h

/-- A neighbour is looked for up to the first character that is not skipped. -/
theorem meetsCased_append (h : ∃ c ∈ s, isCaseIgnorable c = false) :
    meetsCased (s ++ t) = meetsCased s := by
  have hstop : s.dropWhile isCaseIgnorable ≠ [] := by
    simpa [List.dropWhile_eq_nil_iff] using h
  obtain ⟨d, rest, hdrop⟩ := List.exists_cons_of_ne_nil hstop
  rw [meetsCased, meetsCased, List.dropWhile_append, hdrop]
  rfl

/-- What follows a letter or a digit decides on no sigma before it. -/
theorem lowerCharsAfter_append (h : ∀ c, s.getLast? = some c → c.isAlphanum = true) (before : List Char) :
    lowerCharsAfter before (s ++ t) = lowerCharsAfter before s ++ lowerCharsAfter (s.reverse ++ before) t := by
  induction s generalizing before with
  | nil => rfl
  | cons c rest ih =>
    have hsigma : c = 'Σ' → isFinalSigma before (rest ++ t) = isFinalSigma before rest := by
      rintro rfl
      have hrest : rest ≠ [] := by
        rintro rfl
        exact absurd (h 'Σ' rfl) (by decide)
      have hlast := h _ (by rw [List.getLast?_cons_of_ne_nil hrest, List.getLast?_eq_some_getLast hrest])
      rw [isFinalSigma, isFinalSigma, meetsCased_append]
      exact ⟨_, List.getLast_mem hrest, isCaseIgnorable_of_isAlphanum hlast⟩
    have hrest : ∀ c, rest.getLast? = some c → c.isAlphanum = true := by
      intro d hd
      have hne : rest ≠ [] := by
        rintro rfl
        cases hd
      exact h d (by rw [List.getLast?_cons_of_ne_nil hne, hd])
    rw [List.cons_append, lowerCharsAfter, lowerCharsAfter, ih hrest, List.reverse_cons, List.append_assoc,
      List.append_assoc, List.singleton_append]
    split
    case isTrue hc => rw [hsigma hc]
    case isFalse => rfl

end Text

namespace Naming

variable {before : List Char} {previous c d : Char}

/-! ### One more character -/

/-- Whatever is put in front of the words, the end of the last one is left alone. -/
theorem exists_extendFirst_concat (e : Char) (init : List (List Char)) (last : List Char) :
    ∃ init' last', ∀ t, extendFirst e (init ++ [last ++ t]) = init' ++ [last' ++ t] := by
  cases init with
  | nil => exact ⟨[], e :: last, fun _ => rfl⟩
  | cons first others => exact ⟨(e :: first) :: others, last, fun _ => rfl⟩

/-- A character joins the last word when no word begins at it and no cut before it hangs on it. -/
theorem exists_wordsOf_concat (hc : isSeparator c = false) (hd : isSeparator d = false)
    (hjoins : startsWord c d none = false)
    (hkeeps : ∀ previous, before.getLast? = some previous →
      startsWord previous c (some d) = startsWord previous c none) :
    ∃ init last, wordsOf (before ++ [c]) = init ++ [last ++ [c]] ∧
      wordsOf (before ++ [c, d]) = init ++ [last ++ [c, d]] := by
  induction before with
  | nil =>
    have hinside : endsWord c [d] = false := by
      rw [endsWord, hd, List.head?_nil, hjoins]
      rfl
    refine ⟨[], [], ?_, ?_⟩
    · rw [List.nil_append, wordsOf_cons, hc]
      rfl
    · rw [List.nil_append, wordsOf_cons, wordsOf_cons, hc, hd, hinside]
      rfl
  | cons e rest ih =>
    have hends : endsWord e (rest ++ [c, d]) = endsWord e (rest ++ [c]) := by
      cases rest with
      | nil =>
        rw [List.nil_append, List.nil_append, endsWord, endsWord, List.head?_cons, hkeeps e rfl]
        rfl
      | cons f more => cases more <;> rfl
    obtain ⟨init, last, hwords, hmore⟩ := ih fun previous hprevious =>
      hkeeps previous (by rw [List.getLast?_cons, hprevious]; rfl)
    rw [List.cons_append, List.cons_append, wordsOf_cons, wordsOf_cons, hends, hwords, hmore]
    split
    · exact ⟨init, last, rfl, rfl⟩
    split
    · exact ⟨[e] :: init, last, rfl, rfl⟩
    · obtain ⟨init', last', hextended⟩ := exists_extendFirst_concat e init last
      exact ⟨init', last', hextended [c], hextended [c, d]⟩

/-! ### The plural letter -/

/-- The last two characters are capitals. -/
def EndsInCapitals (s : List Char) : Prop :=
  s.getLast?.any Text.isUppercase = true ∧ s.dropLast.getLast?.any Text.isUppercase = true

instance : DecidablePred EndsInCapitals := fun _ => inferInstanceAs (Decidable (_ ∧ _))

theorem endsInCapitals_concat_iff : EndsInCapitals (before ++ [c]) ↔
    Text.isUppercase c = true ∧
      ∃ previous, before.getLast? = some previous ∧ Text.isUppercase previous = true := by
  rw [EndsInCapitals, List.getLast?_concat, List.dropLast_concat, Option.any_some, Option.any_eq_true]

/-- The plural letter shows only a capital after a capital where its word begins. -/
theorem startsWord_plural (h : ¬ (Text.isUppercase c = true ∧ Text.isUppercase previous = true)) :
    startsWord previous c (some 's') = startsWord previous c none := by
  unfold startsWord
  cases hc : Text.isUppercase c with
  | false => rfl
  | true =>
    have hprevious : Text.isUppercase previous = false := Bool.eq_false_iff.2 fun hp => h ⟨hc, hp⟩
    rw [hprevious]
    rfl

theorem exists_wordsOf_plural (hc : isSeparator c = false) (h : ¬ EndsInCapitals (before ++ [c])) :
    ∃ init last, wordsOf (before ++ [c]) = init ++ [last ++ [c]] ∧
      wordsOf (before ++ [c, 's']) = init ++ [last ++ [c, 's']] := by
  apply exists_wordsOf_concat hc (by decide)
  · rw [startsWord, show Text.isUppercase 's' = false by decide]
    rfl
  · intro previous hprevious
    apply startsWord_plural
    rintro ⟨hcapital, hp⟩
    exact h (endsInCapitals_concat_iff.2 ⟨hcapital, previous, hprevious, hp⟩)

section Capitals

theorem isSeparator_of_isUppercase (h : Text.isUppercase c = true) : isSeparator c = false := by
  rw [← Bool.not_eq_true]
  intro hsep
  obtain ⟨hascii, hupper, -⟩ := isMark_of_isSeparator hsep
  rw [Text.isUppercase, if_pos hascii, hupper] at h
  cases h

theorem startsWord_of_isUppercase (hp : Text.isUppercase previous = true) :
    startsWord previous c none = false := by
  have hdigit : previous.isDigit = false := by
    rw [← Bool.not_eq_true, Char.isDigit_iff_toNat]
    intro hdigit
    have hzero : '0'.toNat = 48 := rfl
    have hnine : '9'.toNat = 57 := rfl
    rw [Text.isUppercase, if_pos (by omega), Text.isUpper_iff_toNat] at hp
    omega
  rw [startsWord, Text.isLowercase_of_isUppercase hp, hdigit, Option.any_none, Bool.and_false, Bool.or_false,
    Bool.or_false, Bool.and_false]

variable (h : EndsInCapitals (before ++ [c]))
include h

/-- Before the plural letter the last of two capitals begins a word. -/
theorem wordsOf_plural_of_capitals : wordsOf (before ++ [c, 's']) = wordsOf before ++ [[c, 's']] := by
  obtain ⟨hc, previous, hprevious, hp⟩ := endsInCapitals_concat_iff.1 h
  have hcut : startsWord previous c (some 's') = true := by
    rw [startsWord, hc, hp, Option.any_some, show Text.isLowercase 's' = true by decide, Bool.and_self,
      Bool.or_true, Bool.and_self]
  have hword : wordsOf [c, 's'] = [[c, 's']] := by
    rw [wordsOf_cons_of_isLower (isSeparator_of_isUppercase hc) (by decide)]
    rfl
  rw [← hword, ← wordsOf_append]
  · intro d hd
    rw [hprevious] at hd
    cases hd
    right
    rw [endsWord, List.head?_cons, hcut, Bool.or_true]
  · rintro d ⟨⟩
    exact Text.isLowercase_of_isUppercase hc

/-- Without the plural letter it stays in the word of the first. -/
theorem exists_wordsOf_capitals : ∃ init last, wordsOf before = init ++ [last] ∧
    wordsOf (before ++ [c]) = init ++ [last ++ [c]] := by
  obtain ⟨hc, previous, hprevious, hp⟩ := endsInCapitals_concat_iff.1 h
  obtain ⟨start, rfl⟩ := List.getLast?_eq_some_iff.1 hprevious
  have hkeeps : ∀ first, start.getLast? = some first →
      startsWord first previous (some c) = startsWord first previous none := by
    intro first _
    rw [startsWord, startsWord, Option.any_some, Text.isLowercase_of_isUppercase hc]
    rfl
  obtain ⟨init, last, hshort, hwords⟩ := exists_wordsOf_concat (isSeparator_of_isUppercase hp)
    (isSeparator_of_isUppercase hc) (startsWord_of_isUppercase hp) hkeeps
  refine ⟨init, last ++ [previous], hshort, ?_⟩
  rw [List.append_assoc, List.append_assoc]
  exact hwords

end Capitals

/-! ### Keys -/

theorem snakeChars_of_wordsOf {s word : List Char} {init : List (List Char)}
    (h : wordsOf s = init ++ [word]) :
    snakeChars s = (init.map Text.lowerChars).flatMap (· ++ ['_']) ++ Text.lowerChars word := by
  rw [snakeChars, h, List.map_append]
  exact List.intercalate_concat ['_'] (init.map Text.lowerChars) (Text.lowerChars word)

theorem lowerChars_plural (hc : c.isAlphanum = true) (word : List Char) :
    Text.lowerChars (word ++ [c, 's']) = Text.lowerChars (word ++ [c]) ++ ['s'] := by
  have hlast : ∀ d, (word ++ [c]).getLast? = some d → d.isAlphanum = true := by
    intro d hd
    rw [List.getLast?_concat] at hd
    cases hd
    exact hc
  have happend := Text.lowerCharsAfter_append (t := ['s']) hlast []
  rw [List.append_assoc] at happend
  exact happend

theorem snakeChars_plural (hc : c.isAlphanum = true) (h : ¬ EndsInCapitals (before ++ [c])) :
    snakeChars (before ++ [c, 's']) = snakeChars (before ++ [c]) ++ ['s'] := by
  obtain ⟨init, last, hwords, hplural⟩ := exists_wordsOf_plural (isSeparator_of_isAlphanum hc) h
  rw [snakeChars_of_wordsOf hwords, snakeChars_of_wordsOf hplural, lowerChars_plural hc, List.append_assoc]

theorem snakeChars_plural_of_capitals (h : EndsInCapitals (before ++ [c])) :
    snakeChars (before ++ [c, 's']) = snakeChars before ++ '_' :: Text.lowerChars [c, 's'] := by
  obtain ⟨init, last, hwords, -⟩ := exists_wordsOf_capitals h
  have hplural := wordsOf_plural_of_capitals h
  rw [snakeChars_of_wordsOf hplural, snakeChars_of_wordsOf hwords, hwords]
  simp

/-- The underscore that the plural letter brings about stands in no word. -/
theorem snakeChars_plural_ne_of_capitals (h : EndsInCapitals (before ++ [c])) :
    snakeChars (before ++ [c, 's']) ≠ snakeChars (before ++ [c]) ++ ['s'] := by
  obtain ⟨init, last, hshort, hwords⟩ := exists_wordsOf_capitals h
  rw [snakeChars_plural_of_capitals h, snakeChars_of_wordsOf hshort, snakeChars_of_wordsOf hwords,
    List.append_assoc, List.append_assoc, Ne, List.append_right_inj]
  intro hword
  have hmark : '_' ∈ Text.lowerChars (last ++ [c]) ++ ['s'] := by
    rw [← hword]
    simp
  rw [List.mem_append, or_iff_left (by decide)] at hmark
  have hkept := mem_of_mem_wordsOf (hwords ▸ List.mem_append_right init List.mem_cons_self)
    ((isMark_of_isSeparator (by decide)).mem_of_mem_lowerChars hmark)
  cases hkept.2

/-! ### Annotations -/

theorem toList_plural (start : String) (c : Char) :
    (start ++ String.singleton c ++ "s").toList = start.toList ++ [c, 's'] := by
  rw [String.toList_append, String.toList_append, String.toList_singleton, List.append_assoc]
  rfl

section Singular

variable {x start : String} (hx : x = start ++ String.singleton c)
include hx

theorem snakeCase_plural_iff (hc : c.isAlphanum = true) :
    snakeCase (x ++ "s") = snakeCase x ++ "s" ↔ ¬ EndsInCapitals x.toList := by
  subst hx
  rw [← String.toList_inj, String.toList_append, toList_snakeCase, toList_snakeCase, toList_plural,
    String.toList_append, String.toList_singleton]
  exact ⟨fun h hcapitals => snakeChars_plural_ne_of_capitals hcapitals h, snakeChars_plural hc⟩

theorem splitWords_plural (hc : isSeparator c = false) (h : ¬ EndsInCapitals x.toList) :
    ∃ words word, splitWords x = words ++ [word] ∧ splitWords (x ++ "s") = words ++ [word ++ "s"] := by
  subst hx
  rw [String.toList_append, String.toList_singleton] at h
  obtain ⟨init, last, hwords, hplural⟩ := exists_wordsOf_plural hc h
  refine ⟨init.map String.ofList, String.ofList (last ++ [c]), ?_, ?_⟩
  · rw [splitWords, String.toList_append, String.toList_singleton, hwords, List.map_append, List.map_singleton]
  · have hword : String.ofList (last ++ [c, 's']) = String.ofList (last ++ [c]) ++ "s" := by
      rw [← String.toList_inj, String.toList_append, String.toList_ofList, String.toList_ofList,
        List.append_assoc]
      rfl
    rw [splitWords, toList_plural, hplural, List.map_append, List.map_singleton, hword]

/-- After two capitals the last of them leaves its word for that of the plural letter. -/
theorem plural_of_capitals (h : EndsInCapitals x.toList) :
    splitWords (x ++ "s") = splitWords start ++ [String.singleton c ++ "s"] ∧
      snakeCase (x ++ "s") = snakeCase start ++ "_" ++ Text.lowercase (String.singleton c ++ "s") := by
  subst hx
  rw [String.toList_append, String.toList_singleton] at h
  constructor
  · have hword : String.ofList [c, 's'] = String.singleton c ++ "s" := by
      rw [← String.toList_inj, String.toList_append, String.toList_ofList, String.toList_singleton]
      rfl
    rw [splitWords, toList_plural, wordsOf_plural_of_capitals h, List.map_append, List.map_singleton, hword,
      splitWords]
  · rw [← String.toList_inj, toList_snakeCase, toList_plural, snakeChars_plural_of_capitals h]
    simp

end Singular

end Naming

open Naming

/-- The plural of a text that ends in a letter or a digit always names a subject. -/
theorem Subject.exists_ofRaw?_plural {x : String} {c : Char} (hlast : x.toList.getLast? = some c)
    (hc : c.isAlphanum = true) :
    ∃ subject, ofRaw? (x ++ "s") = some subject ∧ subject.policyKey = snakeCase (x ++ "s") ∧
      subject.snake = snakeCase (camelCase x) := by
  have hsingular : singular (x ++ "s").toList = x.toList := by
    have hraw : (x ++ "s").toList = x.toList ++ ['s'] := String.toList_append
    rw [hraw, singular, List.getLast?_concat, List.dropLast_concat]
    rfl
  have hmem : c ∈ singular (x ++ "s").toList := by
    rw [hsingular]
    exact List.mem_of_getLast? hlast
  obtain ⟨subject, hsubject, hkey, hsnake⟩ := exists_ofRaw? hmem (isSeparator_of_isAlphanum hc)
  rw [hsingular, String.ofList_toList] at hsnake
  exact ⟨subject, hsubject, hkey, hsnake⟩

/-- Where the singular does not end in two capitals, its last word takes the plural letter, and there alone the
policy key is that of the singular with the letter at its end. After two capitals, the last of them begins a
word with the letter. So a subject of plain pieces is called in policies as in messages, with an `s`. -/
theorem Group.policyKey_plural {group : Group} {cfg : Config} {x : String} {c : Char}
    (hraw : group.annotation? cfg.annotations.auth = some (x ++ "s"))
    (hlast : x.toList.getLast? = some c) (hc : c.isAlphanum = true) :
    ∃ subject, group.subject? cfg = some subject ∧
      (subject.policyKey = snakeCase x ++ "s" ↔ ¬ EndsInCapitals x.toList) ∧
      (¬ EndsInCapitals x.toList →
        (∃ words word, splitWords x = words ++ [word] ∧ splitWords (x ++ "s") = words ++ [word ++ "s"]) ∧
          ((∀ piece ∈ pieces x.toList, IsPlain piece) → subject.policyKey = subject.snake ++ "s")) ∧
      (EndsInCapitals x.toList → ∃ start, x = start ++ String.singleton c ∧
        splitWords (x ++ "s") = splitWords start ++ [String.singleton c ++ "s"] ∧
          subject.policyKey = snakeCase start ++ "_" ++ Text.lowercase (String.singleton c ++ "s")) := by
  obtain ⟨subject, hsubject, hkey, hsnake⟩ := Subject.exists_ofRaw?_plural hlast hc
  obtain ⟨start, hstart⟩ := List.getLast?_eq_some_iff.1 hlast
  have hx : x = .ofList start ++ String.singleton c := by
    rw [← String.toList_inj, String.toList_append, String.toList_ofList, String.toList_singleton, hstart]
  have hiff := snakeCase_plural_iff hx hc
  refine ⟨subject, ?_, ?_, fun h => ⟨?_, fun hplain => ?_⟩, fun h => ⟨.ofList start, hx, ?_⟩⟩
  · rw [Group.subject?, hraw, Option.bind_some, hsubject]
  · rw [hkey, hiff]
  · exact splitWords_plural hx (isSeparator_of_isAlphanum hc) h
  · rw [hkey, hiff.2 h, hsnake, snakeCase_camelCase hplain]
  · rw [hkey]
    exact plural_of_capitals hx h

theorem userRoles_policyKey_plural :
    let group : Group := { annotations := .ofList [("group", " user_HTTPRoles ")] }
    group.annotation? "group" = some ("user_HTTPRole" ++ "s") ∧
      "user_HTTPRole".toList.getLast? = some 'e' ∧ 'e'.isAlphanum = true ∧
      ¬ EndsInCapitals "user_HTTPRole".toList ∧
      ∃ subject, group.subject? {} = some subject ∧ subject.policyKey = "user_http_role" ++ "s" := by
  intro group
  have hraw : group.annotation? "group" = some ("user_HTTPRole" ++ "s") := by decide +kernel
  have hlast : "user_HTTPRole".toList.getLast? = some 'e' := by decide
  have hends : ¬ EndsInCapitals "user_HTTPRole".toList := by decide +kernel
  have hsingular : snakeCase "user_HTTPRole" = "user_http_role" := by decide +kernel
  obtain ⟨subject, hsubject, hkey, -⟩ := @Group.policyKey_plural group {} _ _ hraw hlast (by decide)
  rw [hsingular] at hkey
  exact ⟨hraw, hlast, by decide, hends, subject, hsubject, hkey.2 hends⟩

/-- The plural of `ID` is spelled as two words. -/
theorem ids_policyKey_cut :
    let group : Group := { annotations := .ofList [("group", "IDs")] }
    group.annotation? "group" = some ("ID" ++ "s") ∧ "ID".toList.getLast? = some 'D' ∧
      'D'.isAlphanum = true ∧ splitWords "ID" = ["ID"] ∧ splitWords "IDs" = ["I", "Ds"] ∧
      ∃ subject, group.subject? {} = some subject ∧ subject.policyKey = "i_ds" ∧
        subject.policyKey ≠ snakeCase "ID" ++ "s" := by
  intro group
  have hkey : (group.subject? {}).map Subject.policyKey = some "i_ds" := by decide +kernel
  obtain ⟨subject, hsubject, hspelled⟩ := Option.map_eq_some_iff.1 hkey
  refine ⟨by decide +kernel, by decide, by decide, by decide +kernel, by decide +kernel, subject, hsubject,
    hspelled, ?_⟩
  rw [hspelled]
  decide +kernel

end RouteScaffold
