import RouteScaffold.Proofs.Naming.Pieces
import RouteScaffold.Proofs.Naming.Seams
import RouteScaffold.Proofs.Naming.Subject

/-!
# Words through camel case

Camel case drops the separators of an annotation and marks every piece by a capital instead. When each piece
begins with an ASCII letter and a small letter and goes on with letters and digits, its capital is cut off
from any character that a piece can end in, and inside the piece the first letter decides nothing. So the
camel spelling has the words of the annotation, up to the case of their letters.

The main statement is `camelCase_keeps_words`.
-/

namespace RouteScaffold

namespace Text

variable {c : Char}

theorem isUppercase_of_isUpper (h : c.isUpper = true) : isUppercase c = true := by
  have hcode := isUpper_iff_toNat.1 h
  rw [isUppercase, if_pos (by omega), h]

theorem isLowercase_of_isLower (h : c.isLower = true) : isLowercase c = true := by
  have hcode := isLower_iff_toNat.1 h
  rw [isLowercase, if_pos (by omega), h]

theorem isUppercase_of_isLower (h : c.isLower = true) : isUppercase c = false := by
  have hcode := isLower_iff_toNat.1 h
  rw [isUppercase, if_pos (by omega), Bool.eq_false_iff, Ne, isUpper_iff_toNat]
  omega

theorem isLowercase_of_isUpper (h : c.isUpper = true) : isLowercase c = false := by
  have hcode := isUpper_iff_toNat.1 h
  rw [isLowercase, if_pos (by omega), Bool.eq_false_iff, Ne, isLower_iff_toNat]
  omega

theorem isAlpha_iff : c.isAlpha = true ↔ c.isUpper = true ∨ c.isLower = true :=
  Bool.or_eq_true_iff

theorem isAlphanum_iff : c.isAlphanum = true ↔ c.isAlpha = true ∨ c.isDigit = true :=
  Bool.or_eq_true_iff

theorem isAlphanum_of_isLower (h : c.isLower = true) : c.isAlphanum = true :=
  isAlphanum_iff.2 (.inl (isAlpha_iff.2 (.inr h)))

theorem toNat_lt_of_isAlphanum (h : c.isAlphanum = true) : c.toNat < 128 := by
  rw [isAlphanum_iff, isAlpha_iff, isUpper_iff_toNat, isLower_iff_toNat, Char.isDigit_iff_toNat] at h
  have hnine : '9'.toNat = 57 := rfl
  omega

theorem isUpper_toUpper (hc : c.toNat < 128) (h : c.isAlpha = true) : c.toUpper.isUpper = true :=
  forall_ascii (P := fun c => c.isAlpha = true → c.toUpper.isUpper = true) (by decide +kernel) hc h

end Text

namespace Naming

/-- A piece that shows where it begins: an ASCII letter, a small one, then letters and digits. -/
def IsPlain : List Char → Prop
  | first :: second :: rest =>
    first.isAlpha = true ∧ second.isLower = true ∧ ∀ c ∈ rest, c.isAlphanum = true
  | _ => False

instance : DecidablePred IsPlain
  | [] | [_] => inferInstanceAs (Decidable False)
  | first :: second :: rest =>
    decidable_of_iff ((first.isAlpha && second.isLower && rest.all Char.isAlphanum) = true)
      (by simp [IsPlain, and_assoc])

variable {c d : Char} {piece : List Char} {parts : List (List Char)}

theorem isSeparator_of_isAlphanum (h : c.isAlphanum = true) : isSeparator c = false :=
  Text.forall_ascii (P := fun c => c.isAlphanum = true → isSeparator c = false) (by decide +kernel)
    (Text.toNat_lt_of_isAlphanum h) h

theorem IsPlain.isAlphanum (h : IsPlain piece) : ∀ c ∈ piece, c.isAlphanum = true := by
  match piece, h with
  | first :: second :: rest, ⟨hfirst, hsecond, hrest⟩ =>
    refine List.forall_mem_cons.2 ⟨?_, List.forall_mem_cons.2 ⟨?_, hrest⟩⟩
    · exact Text.isAlphanum_iff.2 (.inl hfirst)
    · exact Text.isAlphanum_of_isLower hsecond

theorem IsPlain.isAscii (h : IsPlain piece) : Text.IsAscii piece := fun c hc =>
  Text.toNat_lt_of_isAlphanum (h.isAlphanum c hc)

theorem IsPlain.isSeparator_of_mem (h : IsPlain piece) (hc : c ∈ piece) : isSeparator c = false :=
  isSeparator_of_isAlphanum (h.isAlphanum c hc)

theorem IsPlain.exists_titleChars_eq (h : IsPlain piece) : ∃ first second rest,
    piece = first :: second :: rest ∧ Text.titleChars piece = first.toUpper :: second :: rest ∧
      first.toUpper.isUpper = true ∧ second.isLower = true := by
  have hascii := h.isAscii
  match piece, h with
  | first :: second :: rest, ⟨hfirst, hsecond, _⟩ =>
    have hc : first.toNat < 128 := hascii first List.mem_cons_self
    refine ⟨first, second, rest, rfl, ?_, Text.isUpper_toUpper hc hfirst, hsecond⟩
    rw [Text.titleChars_cons, Text.upperChar_of_lt hc, List.singleton_append]

theorem IsPlain.titleChars (h : IsPlain piece) : IsPlain (Text.titleChars piece) := by
  obtain ⟨first, second, rest, rfl, htitle, hcapital, hsecond⟩ := h.exists_titleChars_eq
  rw [htitle]
  exact ⟨Text.isAlpha_iff.2 (.inl hcapital), hsecond, h.2.2⟩

/-! ### The first letter of a piece -/

/-- A capital before a small letter is cut off from every letter and digit. -/
theorem startsWord_of_capital {previous : Char} (hprevious : previous.isAlphanum = true)
    (hc : c.isUpper = true) (hd : d.isLower = true) : startsWord previous c (some d) = true := by
  have hkind : Text.isLowercase previous = true ∨ previous.isDigit = true ∨
      Text.isUppercase previous = true := by
    rw [Text.isAlphanum_iff, Text.isAlpha_iff] at hprevious
    obtain (hupper | hlower) | hdigit := hprevious
    · exact .inr (.inr (Text.isUppercase_of_isUpper hupper))
    · exact .inl (Text.isLowercase_of_isLower hlower)
    · exact .inr (.inl hdigit)
  rw [startsWord, Text.isUppercase_of_isUpper hc, Option.any_some, Text.isLowercase_of_isLower hd]
  simpa [or_assoc] using hkind

/-- What is put in front of a small letter belongs to the word of this letter. -/
theorem wordsOf_cons_of_isLower (hc : isSeparator c = false) (hd : d.isLower = true) (rest : List Char) :
    wordsOf (c :: d :: rest) = extendFirst c (wordsOf (d :: rest)) := by
  have hkept : isSeparator d = false := isSeparator_of_isAlphanum (Text.isAlphanum_of_isLower hd)
  have hends : endsWord c (d :: rest) = false := by
    rw [endsWord, hkept, startsWord, Text.isUppercase_of_isLower hd]
    rfl
  rw [wordsOf_cons, hc, hends, if_neg Bool.false_ne_true, if_neg Bool.false_ne_true]

theorem map_lowerChars_extendFirst {words : List (List Char)} (hc : c.toNat < 128) (hd : d.toNat < 128)
    (h : c.toLower = d.toLower) (hwords : ∀ word ∈ words, Text.IsAscii word) :
    (extendFirst c words).map Text.lowerChars = (extendFirst d words).map Text.lowerChars := by
  have hfirst : ∀ word, Text.IsAscii word → Text.lowerChars (c :: word) = Text.lowerChars (d :: word) := by
    intro word hword
    rw [Text.lowerChars_eq_map (List.forall_mem_cons.2 ⟨hc, hword⟩),
      Text.lowerChars_eq_map (List.forall_mem_cons.2 ⟨hd, hword⟩), List.map_cons, List.map_cons, h]
  cases words with
  | nil => exact congrArg (· :: []) (hfirst [] (List.forall_mem_nil _))
  | cons word words =>
    exact congrArg (· :: words.map Text.lowerChars) (hfirst word (hwords word List.mem_cons_self))

/-- The case of the first letter does not move a cut inside a piece. -/
theorem IsPlain.map_lowerChars_wordsOf (h : IsPlain piece) :
    (wordsOf (Text.titleChars piece)).map Text.lowerChars = (wordsOf piece).map Text.lowerChars := by
  have htitled := h.titleChars
  obtain ⟨first, second, rest, rfl, htitle, -, hsecond⟩ := h.exists_titleChars_eq
  rw [htitle] at htitled ⊢
  obtain ⟨hfirst, hrest⟩ := List.forall_mem_cons.1 h.isAscii
  rw [wordsOf_cons_of_isLower (h.isSeparator_of_mem List.mem_cons_self) hsecond,
    wordsOf_cons_of_isLower (htitled.isSeparator_of_mem List.mem_cons_self) hsecond]
  apply map_lowerChars_extendFirst
  · exact htitled.isAscii _ List.mem_cons_self
  · exact hfirst
  · exact Text.toLower_toUpper hfirst
  · exact fun word hword => isAscii_of_mem_wordsOf hrest hword

/-! ### Pieces end to end -/

theorem wordsOf_flatMap_titleChars (h : ∀ piece ∈ parts, IsPlain piece) :
    wordsOf (parts.flatMap Text.titleChars) =
      parts.flatMap fun piece => wordsOf (Text.titleChars piece) := by
  induction parts with
  | nil => rfl
  | cons piece parts ih =>
    obtain ⟨hpiece, hparts⟩ := List.forall_mem_cons.1 h
    cases parts with
    | nil => rw [List.flatMap_singleton, List.flatMap_singleton]
    | cons next others =>
      -- The next piece begins with a capital and a small letter, whatever `piece` ends in.
      obtain ⟨first, second, rest, -, htitle, hcapital, hsecond⟩ :=
        (List.forall_mem_cons.1 hparts).1.exists_titleChars_eq
      have hstart : (next :: others).flatMap Text.titleChars =
          first.toUpper :: second :: (rest ++ others.flatMap Text.titleChars) := by
        rw [List.flatMap_cons, htitle]
        rfl
      rw [List.flatMap_cons, wordsOf_append, ih hparts]
      · rfl
      · intro c hc
        have hlast := hpiece.titleChars.isAlphanum c (List.mem_of_getLast? hc)
        right
        rw [hstart, endsWord, List.head?_cons, startsWord_of_capital hlast hcapital hsecond, Bool.or_true]
      · intro d hd
        rw [hstart] at hd
        cases hd
        exact Text.isLowercase_of_isUpper hcapital

/-- The camel spelling has the words of the text, up to case. -/
theorem map_lowerChars_wordsOf_camelChars {s : List Char} (h : ∀ piece ∈ pieces s, IsPlain piece) :
    (wordsOf (camelChars s)).map Text.lowerChars = (wordsOf s).map Text.lowerChars := by
  calc (wordsOf (camelChars s)).map Text.lowerChars
      = (pieces s).flatMap fun piece => (wordsOf (Text.titleChars piece)).map Text.lowerChars := by
        rw [camelChars_eq_flatMap, wordsOf_flatMap_titleChars h, List.map_flatMap]
    _ = (pieces s).flatMap fun piece => (wordsOf piece).map Text.lowerChars := by
        rw [List.flatMap_def, List.flatMap_def,
          List.map_congr_left fun piece hpiece => (h piece hpiece).map_lowerChars_wordsOf]
    _ = (wordsOf s).map Text.lowerChars := by rw [← List.map_flatMap, ← wordsOf_eq_flatMap]

theorem snakeCase_camelCase {x : String} (h : ∀ piece ∈ pieces x.toList, IsPlain piece) :
    snakeCase (camelCase x) = snakeCase x := by
  rw [← String.toList_inj, toList_snakeCase, toList_snakeCase, toList_camelCase, snakeChars, snakeChars,
    map_lowerChars_wordsOf_camelChars h]

end Naming

/-! ### Subjects -/

/-- An annotation with plain pieces names a subject, which is spelled in files and messages like the
annotation itself without its plural. -/
theorem Subject.exists_ofRaw?_eq {raw : String} (hne : Naming.pieces (singular raw.toList) ≠ [])
    (h : ∀ piece ∈ Naming.pieces (singular raw.toList), Naming.IsPlain piece) :
    ∃ subject, ofRaw? raw = some subject ∧
      subject.snake = Naming.snakeCase (.ofList (singular raw.toList)) := by
  obtain ⟨c, hc, hkept⟩ : ∃ c ∈ singular raw.toList, Naming.isSeparator c = false := by
    simpa [Naming.pieces_eq_nil_iff] using hne
  obtain ⟨subject, hsubject, -, hsnake⟩ := exists_ofRaw? hc hkept
  refine ⟨subject, hsubject, ?_⟩
  rw [hsnake]
  apply Naming.snakeCase_camelCase
  rwa [String.toList_ofList]

namespace Naming

/-- Camel case keeps the words of a text with plain pieces: its snake spelling is that of the text. So a
group whose annotation has plain pieces without its plural guards a subject, and this is spelled in files and
messages as the annotation is without its plural. -/
theorem camelCase_keeps_words :
    (∀ x : String, (∀ piece ∈ pieces x.toList, IsPlain piece) →
        snakeCase (camelCase x) = snakeCase x) ∧
      ∀ (group : Group) (cfg : Config) (raw : String),
        group.annotation? cfg.annotations.auth = some raw →
        pieces (Subject.singular raw.toList) ≠ [] →
        (∀ piece ∈ pieces (Subject.singular raw.toList), IsPlain piece) →
          ∃ subject, group.subject? cfg = some subject ∧
            subject.snake = snakeCase (.ofList (Subject.singular raw.toList)) := by
  refine ⟨fun x h => snakeCase_camelCase h, ?_⟩
  intro group cfg raw hraw hne h
  obtain ⟨subject, hsubject, hsnake⟩ := Subject.exists_ofRaw?_eq hne h
  exact ⟨subject, by rw [Group.subject?, hraw, Option.bind_some, hsubject], hsnake⟩

theorem accessKeys_keep_words :
    let group : Group := { annotations := .ofList [("group", " userHTTP//apiV2-keys ")] }
    group.annotation? "group" = some "userHTTP//apiV2-keys" ∧
      Subject.singular "userHTTP//apiV2-keys".toList = "userHTTP//apiV2-key".toList ∧
      pieces "userHTTP//apiV2-key".toList = ["userHTTP".toList, "apiV2".toList, "key".toList] ∧
      (∀ piece ∈ ["userHTTP".toList, "apiV2".toList, "key".toList], IsPlain piece) ∧
      snakeCase (camelCase "userHTTP//apiV2-key") = "user_http_api_v2_key" ∧
      ∃ subject, group.subject? {} = some subject ∧ subject.snake = "user_http_api_v2_key" := by
  intro group
  have hraw : group.annotation? "group" = some "userHTTP//apiV2-keys" := by decide +kernel
  have hsingular : Subject.singular "userHTTP//apiV2-keys".toList = "userHTTP//apiV2-key".toList := by
    decide
  have hpieces : pieces "userHTTP//apiV2-key".toList =
      ["userHTTP".toList, "apiV2".toList, "key".toList] := by decide +kernel
  have hplain : ∀ piece ∈ ["userHTTP".toList, "apiV2".toList, "key".toList], IsPlain piece := by
    decide +kernel
  have hsnake : snakeCase "userHTTP//apiV2-key" = "user_http_api_v2_key" := by decide +kernel
  obtain ⟨hwords, hsubjects⟩ := camelCase_keeps_words
  have hsubject := hsubjects group {} _ hraw
  rw [hsingular, hpieces, String.ofList_toList, hsnake] at hsubject
  refine ⟨hraw, hsingular, hpieces, hplain, ?_, hsubject (List.cons_ne_nil _ _) hplain⟩
  rw [hwords _ (hpieces ▸ hplain), hsnake]

end Naming

end RouteScaffold
