import RouteScaffold.Proofs.Text.Mapping
import RouteScaffold.Text.Blank

/-!
# Capitals, small letters and blanks

The tables keep capitals and small letters apart: two of their runs do not overlap, or one of them is a run
of even code points and the other a run of odd ones. So no character is both (`isLowercase_of_isUppercase`).
In the same way the characters that the mapping to capitals yields are kept apart from those that it changes, so
capitals stay as they are (`upperChar_eq_singleton`). No letter is written by a blank, whatever its case
(`eq_of_isBlank_of_mem_upperChar`).
-/

namespace RouteScaffold.Text

namespace CodeRun

variable {run other : CodeRun} {code : Nat}

/-- All members are even, or all are odd. -/
def isUniform (run : CodeRun) : Bool :=
  run.stride == 2 || run.first == run.last

/-- The runs do not overlap, or they step past each other. -/
def isApart (run other : CodeRun) : Bool :=
  Nat.blt run.last other.first || Nat.blt other.last run.first ||
    (run.isUniform && other.isUniform && !(run.first % 2 == other.first % 2))

theorem mod_two_eq_of_isUniform (h : run.isUniform = true) (hcode : run.contains code = true) :
    code % 2 = run.first % 2 := by
  simp only [isUniform, Bool.or_eq_true, beq_iff_eq] at h
  simp only [contains, Bool.and_eq_true, decide_eq_true_eq, beq_iff_eq] at hcode
  obtain ⟨⟨hfirst, hlast⟩, hstep⟩ := hcode
  obtain hstride | hsingle := h
  · rw [hstride] at hstep
    omega
  · omega

theorem contains_eq_false_of_isApart (h : run.isApart other = true) (hcode : run.contains code = true) :
    other.contains code = false := by
  rw [← Bool.not_eq_true]
  intro hother
  have hbounds : (run.first ≤ code ∧ code ≤ run.last) ∧ other.first ≤ code ∧ code ≤ other.last := by
    simp only [contains, Bool.and_eq_true, decide_eq_true_eq] at hcode hother
    exact ⟨hcode.1, hother.1⟩
  simp only [isApart, Bool.or_eq_true, Nat.blt_eq, Bool.and_eq_true, Bool.not_eq_true', beq_eq_false_iff_ne] at h
  obtain (hbefore | hafter) | ⟨⟨hrun, huniform⟩, hparity⟩ := h
  · omega
  · omega
  · exact hparity ((mod_two_eq_of_isUniform hrun hcode).symm.trans (mod_two_eq_of_isUniform huniform hother))

end CodeRun

variable {c d : Char}

theorem isApart_upper_lower : (uppercaseRuns.all fun run => lowercaseRuns.all run.isApart) = true := by
  decide +kernel

/-- No character is a capital and a small letter. -/
theorem isLowercase_of_isUppercase (h : isUppercase c = true) : isLowercase c = false := by
  unfold isUppercase at h
  unfold isLowercase
  split
  case isTrue hascii =>
    rw [if_pos hascii, isUpper_iff_toNat] at h
    rw [Bool.eq_false_iff, Ne, isLower_iff_toNat]
    omega
  case isFalse hascii =>
    rw [if_neg hascii, List.any_eq_true] at h
    obtain ⟨run, hrun, hcode⟩ := h
    rw [List.any_eq_false]
    intro other hother
    have hapart := List.all_eq_true.1 (List.all_eq_true.1 isApart_upper_lower run hrun) other hother
    rw [CodeRun.contains_eq_false_of_isApart hapart hcode]
    exact Bool.false_ne_true

/-! ### Capitals of capitals -/

/-- The code points that the members of the run map to. -/
def CaseRun.image (entry : CaseRun) : CodeRun :=
  ⟨entry.target entry.run.first, entry.target entry.run.last, entry.run.stride⟩

theorem CaseRun.contains_image {entry : CaseRun} {code : Nat} (hfirst : 0 ≤ entry.run.first + entry.shift)
    (h : entry.run.contains code = true) : entry.image.contains (entry.target code) = true := by
  simp only [CodeRun.contains, Bool.and_eq_true, decide_eq_true_eq, beq_iff_eq] at h
  obtain ⟨⟨hlow, hhigh⟩, hstep⟩ := h
  have hbounds : entry.target entry.run.first ≤ entry.target code ∧
      entry.target code ≤ entry.target entry.run.last ∧
        entry.target code - entry.target entry.run.first = code - entry.run.first := by
    unfold target
    omega
  obtain ⟨hfrom, hto, hoffset⟩ := hbounds
  simp only [CodeRun.contains, Bool.and_eq_true, decide_eq_true_eq, beq_iff_eq]
  refine ⟨⟨hfrom, hto⟩, ?_⟩
  change (entry.target code - entry.target entry.run.first) % entry.run.stride = 0
  rw [hoffset, hstep]

theorem image_upperShifts : (upperShifts.all fun entry =>
    decide (0 ≤ entry.run.first + entry.shift) && upperShifts.all (fun other => entry.image.isApart other.run) &&
      upperExpansions.all fun p => !entry.image.contains p.1) = true := by
  decide +kernel

theorem mapCode_upperExpansions : ∀ p ∈ upperExpansions, ∀ code ∈ p.2,
    mapCode upperExpansions upperShifts code = [code] := by
  decide +kernel

/-- What the mapping to capitals yields, it leaves alone. -/
theorem mapCode_upper_eq_singleton {code target : Nat}
    (h : target ∈ mapCode upperExpansions upperShifts code) :
    mapCode upperExpansions upperShifts target = [target] := by
  obtain ⟨p, hp, hmem⟩ | ⟨entry, hentry, hcode, rfl⟩ | ⟨hfixed, rfl⟩ := mem_mapCode_cases h
  · exact mapCode_upperExpansions p hp target hmem
  · have hruns := List.all_eq_true.1 image_upperShifts entry hentry
    simp only [Bool.and_eq_true, decide_eq_true_eq] at hruns
    obtain ⟨⟨hfirst, hshifts⟩, hexpansions⟩ := hruns
    have himage := CaseRun.contains_image hfirst hcode
    have hlookup : upperExpansions.lookup (entry.target code) = none := by
      rw [List.lookup_eq_none_iff]
      intro p hp
      have hoff := List.all_eq_true.1 hexpansions p hp
      rw [Bool.not_eq_true'] at hoff
      rw [bne_iff_ne]
      intro hsame
      rw [← hsame, himage] at hoff
      cases hoff
    have hfind : (upperShifts.find? fun other => other.run.contains (entry.target code)) = none := by
      rw [List.find?_eq_none]
      intro other hother
      rw [CodeRun.contains_eq_false_of_isApart (List.all_eq_true.1 hshifts other hother) himage]
      exact Bool.false_ne_true
    unfold mapCode
    rw [hlookup, hfind]
  · exact hfixed

theorem upperChar_eq_singleton (h : d ∈ upperChar c) : upperChar d = [d] := by
  -- An ASCII letter may come from a table too, such as the `S` of `ß`, so the cases are those of `d`.
  by_cases hd : d.toNat < 128
  · have hupper : d.toUpper = d :=
      forall_ascii (P := fun d => d.isLower = false → d.toUpper = d) (by decide +kernel) hd
        (isLower_of_mem_upperChar h)
    unfold upperChar
    rw [if_pos hd, hupper]
  · have hpast : ¬ c.toNat < 128 := by
      intro hc
      unfold upperChar at h
      rw [if_pos hc, List.mem_singleton] at h
      rw [h] at hd
      exact hd (forall_ascii (P := fun c => c.toUpper.toNat < 128) (by decide +kernel) hc)
    unfold upperChar at h
    rw [if_neg hpast] at h
    obtain ⟨target, htarget, rfl⟩ := List.mem_map.1 h
    have hcode : (Char.ofNat target).toNat = target := by
      obtain ⟨hvalid, -⟩ | rfl := isLanding_of_mem_mapCode mapsTo_upper htarget
      · exact toNat_ofNat_of_isValidChar hvalid
      · rw [Char.ofNat_toNat]
    unfold upperChar
    rw [if_neg hd, hcode, mapCode_upper_eq_singleton htarget]
    rfl

/-- Titles are their own titles. -/
theorem title_title (s : String) : title (title s) = title s := by
  apply String.toList_injective
  rw [toList_title, toList_title]
  cases s.toList with
  | nil => rfl
  | cons c rest =>
    rw [titleChars_cons]
    cases hmapped : upperChar c with
    | nil => exact absurd hmapped (upperChar_ne_nil c)
    | cons d more =>
      have hd : d ∈ upperChar c := by
        rw [hmapped]
        exact List.mem_cons_self
      rw [List.cons_append, titleChars_cons, upperChar_eq_singleton hd]
      rfl

/-! ### Blanks -/

/-- The code point is that of no blank. -/
def IsInked (code : Nat) : Prop :=
  ∀ range ∈ blankRanges, code < range.1 ∨ range.2 < code

instance (code : Nat) : Decidable (IsInked code) :=
  inferInstanceAs (Decidable (∀ range ∈ blankRanges, code < range.1 ∨ range.2 < code))

theorem isBlank_eq_false_of_isInked (h : IsInked c.toNat) : isBlank c = false := by
  rw [isBlank, List.any_eq_false]
  intro range hrange
  have hoff := h range hrange
  simp only [Bool.and_eq_true, decide_eq_true_eq]
  omega

theorem isInked_upperExpansions : ∀ p ∈ upperExpansions, ∀ code ∈ p.2, IsInked code := by
  decide +kernel

/-- The targets of a run stand between those of its ends. -/
theorem isInked_upperShifts : ∀ entry ∈ upperShifts, ∀ range ∈ blankRanges,
    entry.target entry.run.last < range.1 ∨ range.2 < entry.target entry.run.first := by
  decide +kernel

theorem isInked_of_mem_mapCode {code target : Nat} (h : target ∈ mapCode upperExpansions upperShifts code) :
    IsInked target ∨ target = code := by
  obtain ⟨p, hp, hmem⟩ | ⟨entry, hentry, hcode, rfl⟩ | ⟨-, hsame⟩ := mem_mapCode_cases h
  · exact .inl (isInked_upperExpansions p hp target hmem)
  · left
    intro range hrange
    have hends := isInked_upperShifts entry hentry range hrange
    simp only [CodeRun.contains, Bool.and_eq_true, decide_eq_true_eq] at hcode
    unfold CaseRun.target at hends ⊢
    omega
  · exact .inr hsame

/-- The capital of a letter is no blank. -/
theorem eq_of_isBlank_of_mem_upperChar (h : d ∈ upperChar c) (hblank : isBlank d = true) : d = c := by
  unfold upperChar at h
  split at h
  case isTrue hascii =>
    obtain rfl := List.mem_singleton.1 h
    exact forall_ascii (P := fun c => isBlank c.toUpper = true → c.toUpper = c) (by decide +kernel) hascii hblank
  case isFalse =>
    obtain ⟨target, htarget, rfl⟩ := List.mem_map.1 h
    obtain hinked | rfl := isInked_of_mem_mapCode htarget
    · obtain ⟨hvalid, -⟩ | rfl := isLanding_of_mem_mapCode mapsTo_upper htarget
      · rw [← toNat_ofNat_of_isValidChar hvalid] at hinked
        rw [isBlank_eq_false_of_isInked hinked] at hblank
        cases hblank
      · exact Char.ofNat_toNat c
    · exact Char.ofNat_toNat c

end RouteScaffold.Text
