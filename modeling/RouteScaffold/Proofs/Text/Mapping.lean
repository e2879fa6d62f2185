import RouteScaffold.Text.Case

/-!
# What the case mappings yield

Past ASCII the mappings are tables of runs. Every run lands past ASCII again, apart from the few
characters whose counterpart is an ASCII letter. So a mapping yields the character itself, a letter of
the case mapped to or something past ASCII, and a mark such as a slash or a dot stands in a mapped text
only where it stood before (`IsMark.mem_of_mem_lowerChars` and its companions).
-/

namespace RouteScaffold.Text

/-- A code point past ASCII, or one of the ASCII letters from `first` to `first + 25`. -/
def IsLanding (first code : Nat) : Prop :=
  code.isValidChar ∧ (128 ≤ code ∨ first ≤ code ∧ code < first + 26)

instance (first code : Nat) : Decidable (IsLanding first code) :=
  inferInstanceAs (Decidable (_ ∧ _))

/-- All members of the run map to one side of the surrogates, or the only member to a letter. -/
def CaseRun.Lands (first : Nat) (entry : CaseRun) : Prop :=
  (128 ≤ entry.run.first + entry.shift ∧ entry.run.last + entry.shift < 0xD800) ∨
    (0xE000 ≤ entry.run.first + entry.shift ∧ entry.run.last + entry.shift < 0x110000) ∨
    (entry.run.first = entry.run.last ∧ IsLanding first (entry.target entry.run.first))

instance (first : Nat) (entry : CaseRun) : Decidable (entry.Lands first) :=
  inferInstanceAs (Decidable (_ ∨ _))

theorem CaseRun.Lands.isLanding_target {first code : Nat} {entry : CaseRun} (h : entry.Lands first)
    (hcode : entry.run.contains code = true) : IsLanding first (entry.target code) := by
  simp only [CodeRun.contains, Bool.and_eq_true, decide_eq_true_eq] at hcode
  obtain ⟨⟨hfirst, hlast⟩, -⟩ := hcode
  obtain ⟨hlow, hhigh⟩ | ⟨hlow, hhigh⟩ | ⟨hsingle, hletter⟩ := h
  · have htarget : 128 ≤ entry.target code ∧ entry.target code < 0xD800 := by
      unfold target
      omega
    exact ⟨.inl htarget.2, .inl htarget.1⟩
  · have htarget : 0xE000 ≤ entry.target code ∧ entry.target code < 0x110000 := by
      unfold target
      omega
    refine ⟨.inr ⟨?_, htarget.2⟩, .inl ?_⟩
    · omega
    · omega
  · have hcode : code = entry.run.first := by omega
    rw [hcode]
    exact hletter

/-- Where the tables of a mapping lead. -/
structure MapsTo (first : Nat) (expansions : List (Nat × List Nat)) (shifts : List CaseRun) :
    Prop where
  expansions_ne_nil : ∀ p ∈ expansions, p.2 ≠ []
  expansions_land : ∀ p ∈ expansions, ∀ code ∈ p.2, IsLanding first code
  shifts_land : ∀ entry ∈ shifts, entry.Lands first

theorem mapsTo_upper : MapsTo 65 upperExpansions upperShifts := by
  constructor <;> decide +kernel

theorem mapsTo_lower : MapsTo 97 lowerExpansions lowerShifts := by
  constructor <;> decide +kernel

section Codes

variable {first code : Nat} {expansions : List (Nat × List Nat)} {shifts : List CaseRun}

theorem mapCode_ne_nil (h : MapsTo first expansions shifts) :
    mapCode expansions shifts code ≠ [] := by
  unfold mapCode
  split
  case h_1 codes hcodes =>
    obtain ⟨before, after, hsplit, -⟩ := List.lookup_eq_some_iff.1 hcodes
    exact h.expansions_ne_nil (code, codes) (by simp [hsplit])
  case h_2 =>
    split
    · exact List.cons_ne_nil _ _
    · exact List.cons_ne_nil _ _

/-- A mapped code point comes from one of the tables, or it is unchanged. -/
theorem mem_mapCode_cases {target : Nat} (htarget : target ∈ mapCode expansions shifts code) :
    (∃ p ∈ expansions, target ∈ p.2) ∨
      (∃ entry ∈ shifts, entry.run.contains code = true ∧ target = entry.target code) ∨
        mapCode expansions shifts code = [code] ∧ target = code := by
  unfold mapCode at htarget ⊢
  split at htarget
  case h_1 codes hcodes =>
    obtain ⟨before, after, hsplit, -⟩ := List.lookup_eq_some_iff.1 hcodes
    exact .inl ⟨(code, codes), by simp [hsplit], htarget⟩
  case h_2 =>
    split at htarget
    case h_1 entry hentry =>
      have hcontains : entry.run.contains code = true := by
        simpa using List.find?_some hentry
      exact .inr (.inl ⟨entry, List.mem_of_find?_eq_some hentry, hcontains, List.mem_singleton.1 htarget⟩)
    case h_2 => exact .inr (.inr ⟨rfl, List.mem_singleton.1 htarget⟩)

/-- A mapped code point lands, or it is unchanged. -/
theorem isLanding_of_mem_mapCode (h : MapsTo first expansions shifts) {target : Nat}
    (htarget : target ∈ mapCode expansions shifts code) :
    IsLanding first target ∨ target = code := by
  obtain ⟨p, hp, hmem⟩ | ⟨entry, hentry, hcontains, rfl⟩ | ⟨-, hsame⟩ := mem_mapCode_cases htarget
  · exact .inl (h.expansions_land p hp target hmem)
  · exact .inl ((h.shifts_land entry hentry).isLanding_target hcontains)
  · exact .inr hsame

end Codes

section Characters

variable {c d : Char}

theorem toNat_ofNat_of_isValidChar {code : Nat} (h : code.isValidChar) :
    (Char.ofNat code).toNat = code := by
  rw [Char.ofNat, dif_pos h]
  rfl

theorem isUpper_iff_toNat : c.isUpper = true ↔ 65 ≤ c.toNat ∧ c.toNat < 91 := by
  change decide (65 ≤ c.toNat ∧ c.toNat ≤ 90) = true ↔ _
  rw [decide_eq_true_eq]
  omega

theorem isLower_iff_toNat : c.isLower = true ↔ 97 ≤ c.toNat ∧ c.toNat < 123 := by
  change (decide (97 ≤ c.toNat) && decide (c.toNat ≤ 122)) = true ↔ _
  rw [Bool.and_eq_true, decide_eq_true_eq, decide_eq_true_eq]
  omega

/-- What holds of the ASCII characters one by one. -/
theorem forall_ascii {P : Char → Prop} (h : ∀ n, n < 128 → P (Char.ofNat n))
    (hc : c.toNat < 128) : P c := by
  have hP := h c.toNat hc
  rwa [Char.ofNat_toNat] at hP

theorem toUpper_cases (hc : c.toNat < 128) :
    c.toUpper.isUpper = true ∨ c.toUpper = c ∧ c.isLower = false :=
  forall_ascii (P := fun c => c.toUpper.isUpper = true ∨ c.toUpper = c ∧ c.isLower = false)
    (by decide +kernel) hc

theorem toLower_cases (hc : c.toNat < 128) :
    c.toLower.isLower = true ∨ c.toLower = c ∧ c.isUpper = false :=
  forall_ascii (P := fun c => c.toLower.isLower = true ∨ c.toLower = c ∧ c.isUpper = false)
    (by decide +kernel) hc

/-- A table mapping of a character past ASCII yields letters of its case and characters past ASCII. -/
theorem toNat_of_mem_map_mapCode {first : Nat} {expansions : List (Nat × List Nat)}
    {shifts : List CaseRun} (h : MapsTo first expansions shifts) (hc : 128 ≤ c.toNat)
    (hd : d ∈ (mapCode expansions shifts c.toNat).map Char.ofNat) :
    128 ≤ d.toNat ∨ first ≤ d.toNat ∧ d.toNat < first + 26 := by
  obtain ⟨code, hcode, rfl⟩ := List.mem_map.1 hd
  obtain ⟨hvalid, hlanding⟩ | rfl := isLanding_of_mem_mapCode h hcode
  · rwa [toNat_ofNat_of_isValidChar hvalid]
  · rw [Char.ofNat_toNat]
    exact .inl hc

theorem mem_upperChar_cases (h : d ∈ upperChar c) :
    d.isUpper = true ∨ 128 ≤ d.toNat ∨ d = c ∧ c.isLower = false := by
  unfold upperChar at h
  split at h
  case isTrue hc =>
    obtain rfl := List.mem_singleton.1 h
    obtain hupper | hsame := toUpper_cases hc
    · exact .inl hupper
    · exact .inr (.inr hsame)
  case isFalse hc =>
    obtain hpast | hletter := toNat_of_mem_map_mapCode mapsTo_upper (Nat.le_of_not_lt hc) h
    · exact .inr (.inl hpast)
    · exact .inl (isUpper_iff_toNat.2 hletter)

theorem mem_lowerChar_cases (h : d ∈ lowerChar c) :
    d.isLower = true ∨ 128 ≤ d.toNat ∨ d = c ∧ c.isUpper = false := by
  unfold lowerChar at h
  split at h
  case isTrue hc =>
    obtain rfl := List.mem_singleton.1 h
    obtain hlower | hsame := toLower_cases hc
    · exact .inl hlower
    · exact .inr (.inr hsame)
  case isFalse hc =>
    obtain hpast | hletter := toNat_of_mem_map_mapCode mapsTo_lower (Nat.le_of_not_lt hc) h
    · exact .inr (.inl hpast)
    · exact .inl (isLower_iff_toNat.2 hletter)

theorem upperChar_ne_nil (c : Char) : upperChar c ≠ [] := by
  unfold upperChar
  split
  · exact List.cons_ne_nil _ _
  · rw [Ne, List.map_eq_nil_iff]
    exact mapCode_ne_nil mapsTo_upper

theorem lowerChar_ne_nil (c : Char) : lowerChar c ≠ [] := by
  unfold lowerChar
  split
  · exact List.cons_ne_nil _ _
  · rw [Ne, List.map_eq_nil_iff]
    exact mapCode_ne_nil mapsTo_lower

/-- No uppercased text has a small ASCII letter. -/
theorem isLower_of_mem_upperChar (h : d ∈ upperChar c) : d.isLower = false := by
  rw [Bool.eq_false_iff, Ne, isLower_iff_toNat]
  obtain hupper | hpast | ⟨rfl, hlower⟩ := mem_upperChar_cases h
  · rw [isUpper_iff_toNat] at hupper
    omega
  · omega
  · rw [Bool.eq_false_iff, Ne, isLower_iff_toNat] at hlower
    exact hlower

end Characters

/-! ### No text is mapped to nothing -/

section Texts

variable {s : List Char}

theorem lowerCharsAfter_ne_nil (h : s ≠ []) (before : List Char) : lowerCharsAfter before s ≠ [] := by
  obtain ⟨c, rest, rfl⟩ := List.exists_cons_of_ne_nil h
  rw [lowerCharsAfter]
  apply List.append_ne_nil_of_left_ne_nil
  split
  · exact List.cons_ne_nil _ _
  · exact lowerChar_ne_nil c

theorem lowerChars_ne_nil (h : s ≠ []) : lowerChars s ≠ [] :=
  lowerCharsAfter_ne_nil h []

theorem titleChars_ne_nil (h : s ≠ []) : titleChars s ≠ [] := by
  obtain ⟨c, rest, rfl⟩ := List.exists_cons_of_ne_nil h
  exact List.append_ne_nil_of_left_ne_nil (upperChar_ne_nil c) rest

theorem upperChars_ne_nil (h : s ≠ []) : upperChars s ≠ [] := by
  obtain ⟨c, rest, rfl⟩ := List.exists_cons_of_ne_nil h
  rw [upperChars, List.flatMap_cons]
  exact List.append_ne_nil_of_left_ne_nil (upperChar_ne_nil c) _

end Texts

/-! ### Marks -/

/-- An ASCII character that is no letter. -/
def IsMark (c : Char) : Prop :=
  c.toNat < 128 ∧ c.isUpper = false ∧ c.isLower = false

instance (c : Char) : Decidable (IsMark c) :=
  inferInstanceAs (Decidable (_ ∧ _))

namespace IsMark

variable {c mark : Char} {s : List Char}

theorem eq_of_mem_upperChar (hmark : IsMark mark) (h : mark ∈ upperChar c) : mark = c := by
  obtain ⟨hascii, hupper, -⟩ := hmark
  obtain hletter | hpast | ⟨rfl, -⟩ := mem_upperChar_cases h
  · simp [hletter] at hupper
  · omega
  · rfl

theorem eq_of_mem_lowerChar (hmark : IsMark mark) (h : mark ∈ lowerChar c) : mark = c := by
  obtain ⟨hascii, -, hlower⟩ := hmark
  obtain hletter | hpast | ⟨rfl, -⟩ := mem_lowerChar_cases h
  · simp [hletter] at hlower
  · omega
  · rfl

theorem mem_of_mem_upperChars (hmark : IsMark mark) (h : mark ∈ upperChars s) : mark ∈ s := by
  obtain ⟨c, hc, hupper⟩ := List.mem_flatMap.1 h
  rwa [hmark.eq_of_mem_upperChar hupper]

theorem mem_of_mem_titleChars (hmark : IsMark mark) (h : mark ∈ titleChars s) : mark ∈ s := by
  cases s with
  | nil => exact h
  | cons c rest =>
    rw [titleChars_cons, List.mem_append] at h
    obtain hfirst | hrest := h
    · rw [hmark.eq_of_mem_upperChar hfirst]
      exact List.mem_cons_self
    · exact List.mem_cons_of_mem c hrest

theorem mem_of_mem_lowerCharsAfter (hmark : IsMark mark) {before : List Char}
    (h : mark ∈ lowerCharsAfter before s) : mark ∈ s := by
  induction s generalizing before with
  | nil => cases h
  | cons c rest ih =>
    rw [lowerCharsAfter, List.mem_append] at h
    obtain hfirst | hrest := h
    · split at hfirst
      · -- Both forms of a small sigma lie past ASCII.
        have hsigma : mark = 'ς' ∨ mark = 'σ' := by
          rw [List.mem_singleton] at hfirst
          split at hfirst
          · exact .inl hfirst
          · exact .inr hfirst
        exfalso
        obtain rfl | rfl := hsigma
        · revert hmark
          decide
        · revert hmark
          decide
      · rw [hmark.eq_of_mem_lowerChar hfirst]
        exact List.mem_cons_self
    · exact List.mem_cons_of_mem c (ih hrest)

theorem mem_of_mem_lowerChars (hmark : IsMark mark) (h : mark ∈ lowerChars s) : mark ∈ s :=
  hmark.mem_of_mem_lowerCharsAfter h

theorem lowerChar_eq (hmark : IsMark mark) : lowerChar mark = [mark] := by
  obtain ⟨hascii, hupper, -⟩ := hmark
  have hlower : mark.toLower = mark :=
    forall_ascii (P := fun c => c.isUpper = false → c.toLower = c) (by decide +kernel) hascii hupper
  rw [lowerChar, if_pos hascii, hlower]

theorem mem_lowerCharsAfter (hmark : IsMark mark) {before : List Char} (h : mark ∈ s) :
    mark ∈ lowerCharsAfter before s := by
  induction s generalizing before with
  | nil => cases h
  | cons c rest ih =>
    rw [lowerCharsAfter, List.mem_append]
    obtain rfl | hrest := List.mem_cons.1 h
    · have hsigma : mark ≠ 'Σ' := by
        rintro rfl
        revert hmark
        decide
      rw [if_neg hsigma, hmark.lowerChar_eq]
      exact .inl List.mem_cons_self
    · exact .inr (ih hrest)

/-- Lowercasing leaves the marks of a text where they are. -/
theorem mem_lowerChars_iff (hmark : IsMark mark) : mark ∈ lowerChars s ↔ mark ∈ s :=
  ⟨hmark.mem_of_mem_lowerChars, hmark.mem_lowerCharsAfter⟩

end IsMark

end RouteScaffold.Text
