import RouteScaffold.Proofs.Naming.Words

/-!
# Formats that hide where words begin

The case of a first letter moves the cuts of an identifier: `aBC` is `a` and `BC`, but `ABC` is one
word. Most formats show the cuts, by a joint or by capitals. The others write an ASCII identifier as though
it were one word, so they take two spellings that differ in case alone for the same.

The main statement is `seamless_iff`.
-/

namespace RouteScaffold

namespace Text

def IsAscii (s : List Char) : Prop := ∀ c ∈ s, c.toNat < 128

instance (s : List Char) : Decidable (IsAscii s) :=
  decidable_of_iff (s.all (·.toNat < 128) = true) (by simp [IsAscii])

theorem IsAscii.append {s t : List Char} (hs : IsAscii s) (ht : IsAscii t) : IsAscii (s ++ t) := by
  intro c hc
  rcases List.mem_append.1 hc with hc | hc
  · exact hs c hc
  · exact ht c hc

variable {c : Char} {s t : List Char}

theorem toLower_toUpper (hc : c.toNat < 128) : c.toUpper.toLower = c.toLower :=
  forall_ascii (P := fun c => c.toUpper.toLower = c.toLower) (by decide +kernel) hc

theorem toUpper_toLower (hc : c.toNat < 128) : c.toLower.toUpper = c.toUpper :=
  forall_ascii (P := fun c => c.toLower.toUpper = c.toUpper) (by decide +kernel) hc

theorem toLower_toLower (hc : c.toNat < 128) : c.toLower.toLower = c.toLower :=
  forall_ascii (P := fun c => c.toLower.toLower = c.toLower) (by decide +kernel) hc

theorem IsAscii.map_toLower (hs : IsAscii s) : IsAscii (s.map Char.toLower) := by
  intro d hd
  obtain ⟨c, hc, rfl⟩ := List.mem_map.1 hd
  exact forall_ascii (P := fun c => c.toLower.toNat < 128) (by decide +kernel) (hs c hc)

theorem upperChar_of_lt (hc : c.toNat < 128) : upperChar c = [c.toUpper] := by
  unfold upperChar
  rw [if_pos hc]

theorem lowerCharsAfter_eq_map (hs : IsAscii s) (before : List Char) :
    lowerCharsAfter before s = s.map Char.toLower := by
  induction s generalizing before with
  | nil => rfl
  | cons c rest ih =>
    obtain ⟨hc, hrest⟩ := List.forall_mem_cons.1 hs
    have hsigma : c ≠ 'Σ' := by
      rintro rfl
      exact absurd hc (by decide)
    rw [lowerCharsAfter, if_neg hsigma, ih hrest, lowerChar, if_pos hc]
    rfl

theorem lowerChars_eq_map (hs : IsAscii s) : lowerChars s = s.map Char.toLower :=
  lowerCharsAfter_eq_map hs []

theorem lowerChars_lowerChars (hs : IsAscii s) : lowerChars (lowerChars s) = lowerChars s := by
  rw [lowerChars_eq_map hs, lowerChars_eq_map hs.map_toLower, List.map_map]
  exact List.map_congr_left fun c hc => toLower_toLower (hs c hc)

theorem upperChars_eq_map (hs : IsAscii s) : upperChars s = s.map Char.toUpper := by
  unfold upperChars
  induction s with
  | nil => rfl
  | cons c rest ih =>
    obtain ⟨hc, hrest⟩ := List.forall_mem_cons.1 hs
    rw [List.flatMap_cons, upperChar_of_lt hc, ih hrest]
    rfl

/-- Titles forget the case of the first letter and nothing else. -/
theorem map_toLower_eq_of_titleChars_eq (hs : IsAscii s) (ht : IsAscii t)
    (h : titleChars s = titleChars t) : s.map Char.toLower = t.map Char.toLower := by
  cases s with
  | nil =>
    cases t with
    | nil => rfl
    | cons d rest =>
      have hd : d.toNat < 128 := ht d List.mem_cons_self
      simp [upperChar_of_lt hd] at h
  | cons c more =>
    have hc : c.toNat < 128 := hs c List.mem_cons_self
    cases t with
    | nil => simp [upperChar_of_lt hc] at h
    | cons d rest =>
      have hd : d.toNat < 128 := ht d List.mem_cons_self
      rw [titleChars_cons, titleChars_cons, upperChar_of_lt hc, upperChar_of_lt hd] at h
      obtain ⟨hfirst, hrest⟩ := List.cons_eq_cons.1 h
      calc (c :: more).map Char.toLower
          = c.toUpper.toLower :: more.map Char.toLower := by rw [List.map_cons, toLower_toUpper hc]
        _ = d.toUpper.toLower :: rest.map Char.toLower := by
            rw [hfirst]
            exact congrArg _ (congrArg _ hrest)
        _ = (d :: rest).map Char.toLower := by rw [List.map_cons, toLower_toUpper hd]

end Text

namespace Naming

open Text (IsAscii)

variable {s t : List Char} {format : NamingFormat}

theorem WordStyle.apply_eq_of_map_toLower_eq (hs : IsAscii s) (ht : IsAscii t)
    (h : s.map Char.toLower = t.map Char.toLower) (style : WordStyle) :
    style.apply s = style.apply t := by
  have hupper : ∀ u, IsAscii u → u.map Char.toUpper = (u.map Char.toLower).map Char.toUpper := by
    intro u hu
    rw [List.map_map]
    exact List.map_congr_left fun c hc => (Text.toUpper_toLower (hu c hc)).symm
  cases style with
  | lower =>
    change Text.lowerChars s = Text.lowerChars t
    rw [Text.lowerChars_eq_map hs, Text.lowerChars_eq_map ht, h]
  | upper =>
    change Text.upperChars s = Text.upperChars t
    rw [Text.upperChars_eq_map hs, Text.upperChars_eq_map ht, hupper s hs, hupper t ht, h]
  | title =>
    change Text.titleChars (Text.lowerChars s) = Text.titleChars (Text.lowerChars t)
    rw [Text.lowerChars_eq_map hs, Text.lowerChars_eq_map ht, h]

theorem isAscii_of_mem_wordsOf (hs : IsAscii s) {word : List Char} (h : word ∈ wordsOf s) : IsAscii word :=
  fun c hc => hs c (mem_of_mem_wordsOf h hc).1

theorem isSeparator_toLower {c : Char} (hc : c.toNat < 128) : isSeparator c.toLower = isSeparator c :=
  Text.forall_ascii (P := fun c => isSeparator c.toLower = isSeparator c) (by decide +kernel) hc

/-- The format has no joint, and no word after the first has a capital that the first could lack. -/
def NamingFormat.Seamless (format : NamingFormat) : Prop :=
  format.separator = [] ∧
    (format.first, format.rest) ∈ [(WordStyle.lower, WordStyle.lower), (.upper, .upper), (.title, .lower)]

instance (format : NamingFormat) : Decidable format.Seamless :=
  inferInstanceAs (Decidable (_ ∧ _))

/-- Without seams the words are written like a single one. -/
theorem flatten_styledWords_of_seamless (hformat : format.Seamless) {words : List (List Char)}
    (hwords : IsAscii words.flatten) (hne : ∀ word ∈ words, word ≠ []) :
    (format.styledWords words).flatten = format.first.apply words.flatten := by
  have hstyle := hformat.2
  have hparts : ∀ word ∈ words, IsAscii word := fun word hword c hc =>
    hwords c (List.mem_flatten.2 ⟨word, hword, hc⟩)
  have hmapped : ∀ (f : List Char → List Char) (g : Char → Char), (∀ u, IsAscii u → f u = u.map g) →
      ∀ parts : List (List Char), (∀ part ∈ parts, IsAscii part) →
        (parts.map f).flatten = parts.flatten.map g := by
    intro f g hfg parts h
    rw [List.map_flatten, List.map_congr_left fun part hpart => hfg part (h part hpart)]
  have hlower := hmapped Text.lowerChars Char.toLower fun _ => Text.lowerChars_eq_map
  have hupper := hmapped Text.upperChars Char.toUpper fun _ => Text.upperChars_eq_map
  cases words with
  | nil =>
    change [] = format.first.apply []
    cases format.first <;> rfl
  | cons word words =>
    obtain ⟨hword, hrest⟩ := List.forall_mem_cons.1 hparts
    simp only [List.mem_cons, Prod.mk.injEq, List.not_mem_nil, or_false] at hstyle
    rw [NamingFormat.styledWords, List.flatten_cons]
    obtain ⟨hfirst, hlater⟩ | ⟨hfirst, hlater⟩ | ⟨hfirst, hlater⟩ := hstyle
    · rw [hfirst, hlater]
      change ((word :: words).map Text.lowerChars).flatten = Text.lowerChars _
      rw [hlower _ hparts, Text.lowerChars_eq_map hwords]
    · rw [hfirst, hlater]
      change ((word :: words).map Text.upperChars).flatten = Text.upperChars _
      rw [hupper _ hparts, Text.upperChars_eq_map hwords]
    · rw [hfirst, hlater]
      change Text.titleChars (Text.lowerChars word) ++ (words.map Text.lowerChars).flatten =
        Text.titleChars (Text.lowerChars _)
      -- the first word has a letter to carry the capital
      obtain ⟨c, more, rfl⟩ := List.exists_cons_of_ne_nil (hne word List.mem_cons_self)
      rw [Text.lowerChars_eq_map hwords, hlower words hrest, Text.lowerChars_eq_map hword,
        List.flatten_cons, List.map_append, List.map_cons, List.cons_append, Text.titleChars_cons,
        Text.titleChars_cons, List.append_assoc]

/-- A seamless format writes ASCII identifiers that differ in case alone as one. -/
theorem applyChars_eq_of_seamless (hformat : format.Seamless) (hs : IsAscii s) (ht : IsAscii t)
    (h : s.map Char.toLower = t.map Char.toLower) : format.applyChars s = format.applyChars t := by
  have hascii : ∀ u, IsAscii u → IsAscii (u.filter fun c => !isSeparator c) := fun u hu c hc =>
    hu c (List.mem_filter.1 hc).1
  have hletters : ∀ u, IsAscii u → (u.filter fun c => !isSeparator c).map Char.toLower =
      (u.map Char.toLower).filter fun c => !isSeparator c := by
    intro u hu
    rw [List.filter_map, List.filter_congr]
    intro c hc
    rw [Function.comp_apply, isSeparator_toLower (hu c hc)]
  have hwords : ∀ u, IsAscii u → (format.styledWords (wordsOf u)).flatten =
      format.first.apply (u.filter fun c => !isSeparator c) := by
    intro u hu
    rw [flatten_styledWords_of_seamless hformat, flatten_wordsOf]
    · rw [flatten_wordsOf]
      exact hascii u hu
    · exact fun _ => ne_nil_of_mem_wordsOf
  have hjoined : ∀ parts : List (List Char), format.separator.intercalate parts = parts.flatten := by
    intro parts
    rw [hformat.1]
    induction parts with
    | nil => rfl
    | cons part parts ih =>
      cases parts with
      | nil => simp
      | cons next parts =>
        rw [List.intercalate_cons_cons, ih, List.append_nil]
        rfl
  have hcase : (s.filter fun c => !isSeparator c).map Char.toLower =
      (t.filter fun c => !isSeparator c).map Char.toLower := by
    rw [hletters s hs, hletters t ht, h]
  unfold NamingFormat.applyChars
  rw [hjoined, hjoined, hwords s hs, hwords t ht,
    WordStyle.apply_eq_of_map_toLower_eq (hascii s hs) (hascii t ht) hcase]

/-- Only seamless formats do so: the others already tell `aBC` from `ABC`. -/
theorem seamless_iff : format.Seamless ↔ ∀ s t, IsAscii s → IsAscii t →
    s.map Char.toLower = t.map Char.toLower → format.applyChars s = format.applyChars t := by
  constructor
  · intro hformat s t hs ht h
    exact applyChars_eq_of_seamless hformat hs ht h
  · intro h
    have happly := h ['a', 'B', 'C'] ['A', 'B', 'C'] (by decide) (by decide) (by decide)
    have hcut : wordsOf ['a', 'B', 'C'] = [['a'], ['B', 'C']] := by decide +kernel
    have hwhole : wordsOf ['A', 'B', 'C'] = [['A', 'B', 'C']] := by decide +kernel
    rw [NamingFormat.applyChars, NamingFormat.applyChars, hcut, hwhole, List.append_left_inj,
      List.append_right_inj] at happly
    simp only [NamingFormat.styledWords, List.map_cons, List.map_nil, List.intercalate_cons_cons,
      List.intercalate_singleton] at happly
    have hlengths : ∀ style : WordStyle, (style.apply ['a']).length = 1 ∧
        (style.apply ['B', 'C']).length = 2 ∧ (style.apply ['A', 'B', 'C']).length = 3 := by
      intro style
      cases style <;> decide +kernel
    have hstyles : ∀ first rest : WordStyle,
        first.apply ['a'] ++ [] ++ rest.apply ['B', 'C'] = first.apply ['A', 'B', 'C'] →
          (first, rest) ∈ [(WordStyle.lower, WordStyle.lower), (.upper, .upper), (.title, .lower)] := by
      intro first rest
      cases first <;> cases rest <;> decide +kernel
    have hseparator : format.separator = [] := by
      have hlength := congrArg List.length happly
      rw [List.length_append, List.length_append, (hlengths format.first).1,
        (hlengths format.rest).2.1, (hlengths format.first).2.2] at hlength
      apply List.eq_nil_of_length_eq_zero
      omega
    rw [hseparator] at happly
    exact ⟨hseparator, hstyles format.first format.rest happly⟩

end Naming

end RouteScaffold
