import RouteScaffold.Config
import RouteScaffold.Proofs.Naming.Seams

/-!
# The grammar of naming formats

A naming format spells `go` and, somewhere behind it, `zero`, each in one of three ways, with nothing
but ASCII punctuation around them. The reader looks for the first place where each word stands in any
case. No letter stands outside the words, so these places are the only ones.

The main statement is `NamingFormat.reads_grammar`.
-/

namespace RouteScaffold.Naming

/-- The spellings of a sample word with the styles that they stand for. -/
def SampleWord.spellings : SampleWord → List (List Char × WordStyle)
  | .go => [(['g', 'o'], .lower), (['G', 'O'], .upper), (['G', 'o'], .title)]
  | .zero =>
    [(['z', 'e', 'r', 'o'], .lower), (['Z', 'E', 'R', 'O'], .upper), (['Z', 'e', 'r', 'o'], .title)]

/-- ASCII characters that are neither letters nor digits. -/
def IsFormatMark (c : Char) : Prop := c.toNat < 128 ∧ c.isAlphanum = false

instance (c : Char) : Decidable (IsFormatMark c) :=
  inferInstanceAs (Decidable (_ ∧ _))

/-- A text that follows the grammar of naming formats, part by part. -/
@[ext]
structure FormatSpelling where
  before : List Char
  first : List Char × WordStyle
  separator : List Char
  rest : List Char × WordStyle
  after : List Char
  first_mem : first ∈ SampleWord.go.spellings
  rest_mem : rest ∈ SampleWord.zero.spellings
  marks : ∀ c ∈ before ++ separator ++ after, IsFormatMark c

namespace FormatSpelling

def chars (spelling : FormatSpelling) : List Char :=
  spelling.before ++ spelling.first.1 ++ spelling.separator ++ spelling.rest.1 ++ spelling.after

/-- The format that the text stands for. -/
def format (spelling : FormatSpelling) : NamingFormat where
  before := spelling.before
  first := spelling.first.2
  separator := spelling.separator
  rest := spelling.rest.2
  after := spelling.after

end FormatSpelling

/-! ### The sample words -/

section SampleWord

variable {word : SampleWord} {found : List Char} {style : WordStyle}

theorem SampleWord.spellings_eq (word : SampleWord) :
    word.spellings = [WordStyle.lower, .upper, .title].map fun style => (word.spelled style, style) := by
  cases word <;> decide +kernel

theorem SampleWord.mem_spellings_iff : (found, style) ∈ word.spellings ↔ found = word.spelled style := by
  rw [spellings_eq]
  constructor
  · intro h
    obtain ⟨style', -, heq⟩ := List.mem_map.1 h
    obtain ⟨hfound, rfl⟩ := Prod.mk.inj heq
    exact hfound.symm
  · rintro rfl
    refine List.mem_map_of_mem (f := fun style => (word.spelled style, style)) ?_
    cases style <;> decide

theorem SampleWord.styleOf_eq_some_iff : word.styleOf found = some style ↔ found = word.spelled style := by
  constructor
  · intro h
    simpa using List.find?_some h
  · rintro rfl
    cases word <;> cases style <;> decide +kernel

/-- A spelling has the letters of its word, and the letters of the word are ASCII. -/
theorem SampleWord.map_toLower_spelled (word : SampleWord) (style : WordStyle) :
    (word.spelled style).map Char.toLower = word.text := by
  cases word <;> cases style <;> decide +kernel

theorem SampleWord.isAscii_spelled (word : SampleWord) (style : WordStyle) :
    Text.IsAscii (word.spelled style) := by
  cases word <;> cases style <;> decide +kernel

theorem SampleWord.length_spelled (word : SampleWord) (style : WordStyle) :
    (word.spelled style).length = word.text.length := by
  rw [← map_toLower_spelled word style, List.length_map]

end SampleWord

/-! ### The first place of a word -/

/-- A word is found at once behind a text without its first letter. -/
theorem position?_append {p : Char} {pattern before : List Char} (hp : p ∉ before) (rest : List Char) :
    position? (p :: pattern) (before ++ (p :: pattern ++ rest)) = some before.length := by
  induction before with
  | nil => simp [position?]
  | cons c before ih =>
    have hne : p ≠ c := fun h => hp (h ▸ List.mem_cons_self)
    have hrest := ih fun h => hp (List.mem_cons_of_mem c h)
    have hfirst : (p :: pattern).isPrefixOf (c :: (before ++ (p :: pattern ++ rest))) = false := by
      rw [List.isPrefixOf_cons_cons, beq_false_of_ne hne, Bool.false_and]
    rw [List.cons_append, position?, hfirst, hrest]
    rfl

/-! ### A format from its places -/

/-- The parts that a text has between two places make a format. -/
theorem NamingFormat.ofPositions_eq_ok_iff {s : List Char} {goAt zeroAt : Nat} {format : NamingFormat} :
    NamingFormat.ofPositions s goAt zeroAt = .ok format ↔
      (∀ c ∈ format.before ++ format.separator ++ format.after, c.isAlphanum = false) ∧
        s.take goAt = format.before ∧
        (s.drop goAt).take 2 = SampleWord.go.spelled format.first ∧
        (s.drop (goAt + 2)).take (zeroAt - (goAt + 2)) = format.separator ∧
        (s.drop zeroAt).take 4 = SampleWord.zero.spelled format.rest ∧
        s.drop (zeroAt + 4) = format.after := by
  have hall : ∀ {t : List Char}, t.all isPunctuation = true ↔ ∀ c ∈ t, c.isAlphanum = false := by
    intro t
    simp [isPunctuation]
  unfold ofPositions
  simp only
  constructor
  · intro h
    split at h
    · cases h
    case isFalse hmarks =>
      split at h
      · cases h
      · cases h
      case h_3 first rest hfirst hrest =>
        cases h
        rw [Bool.not_eq_true, Bool.not_eq_false'] at hmarks
        exact ⟨hall.1 hmarks, rfl, SampleWord.styleOf_eq_some_iff.1 hfirst, rfl,
          SampleWord.styleOf_eq_some_iff.1 hrest, rfl⟩
  · rintro ⟨hmarks, hbefore, hfirst, hseparator, hrest, hafter⟩
    rw [hbefore, hseparator, hafter, hall.2 hmarks, SampleWord.styleOf_eq_some_iff.2 hfirst,
      SampleWord.styleOf_eq_some_iff.2 hrest]
    rfl

/-! ### From the grammar to the format -/

theorem IsFormatMark.toLower_eq {c : Char} (h : IsFormatMark c) : c.toLower = c :=
  Text.forall_ascii (P := fun c => c.isAlphanum = false → c.toLower = c) (by decide +kernel) h.1 h.2

theorem map_toLower_of_marks {s : List Char} (h : ∀ c ∈ s, IsFormatMark c) : s.map Char.toLower = s := by
  have hid := List.map_congr_left fun c hc => (h c hc).toLower_eq
  rw [hid, List.map_id']

namespace FormatSpelling

variable (spelling : FormatSpelling)

theorem first_eq : spelling.first.1 = SampleWord.go.spelled spelling.first.2 :=
  SampleWord.mem_spellings_iff.1 spelling.first_mem

theorem rest_eq : spelling.rest.1 = SampleWord.zero.spelled spelling.rest.2 :=
  SampleWord.mem_spellings_iff.1 spelling.rest_mem

theorem chars_format : spelling.format.chars = spelling.chars := by
  unfold chars
  rw [first_eq, rest_eq]
  rfl

theorem isFormatMark_before : ∀ c ∈ spelling.before, IsFormatMark c := fun c hc =>
  spelling.marks c (List.mem_append_left _ (List.mem_append_left _ hc))

theorem isFormatMark_separator : ∀ c ∈ spelling.separator, IsFormatMark c := fun c hc =>
  spelling.marks c (List.mem_append_left _ (List.mem_append_right _ hc))

theorem isFormatMark_after : ∀ c ∈ spelling.after, IsFormatMark c := fun c hc =>
  spelling.marks c (List.mem_append_right _ hc)

theorem isAscii_chars : Text.IsAscii spelling.chars := by
  have hmarks : ∀ s : List Char, (∀ c ∈ s, IsFormatMark c) → Text.IsAscii s := fun s h c hc => (h c hc).1
  unfold chars
  rw [first_eq, rest_eq]
  refine .append (.append (.append (.append ?_ ?_) ?_) ?_) ?_
  · exact hmarks _ spelling.isFormatMark_before
  · exact SampleWord.isAscii_spelled _ _
  · exact hmarks _ spelling.isFormatMark_separator
  · exact SampleWord.isAscii_spelled _ _
  · exact hmarks _ spelling.isFormatMark_after

theorem map_toLower_chars :
    spelling.chars.map Char.toLower = spelling.before ++ (SampleWord.go.text ++
      (spelling.separator ++ (SampleWord.zero.text ++ spelling.after))) := by
  unfold chars
  rw [first_eq, rest_eq]
  simp only [List.map_append, SampleWord.map_toLower_spelled, List.append_assoc,
    map_toLower_of_marks spelling.isFormatMark_before, map_toLower_of_marks spelling.isFormatMark_separator,
    map_toLower_of_marks spelling.isFormatMark_after]

theorem position?_go :
    position? SampleWord.go.text (spelling.chars.map Char.toLower) = some spelling.before.length := by
  have hletter : 'g' ∉ spelling.before := fun h => absurd (spelling.isFormatMark_before 'g' h).2 (by decide)
  rw [map_toLower_chars]
  exact position?_append hletter _

theorem position?_zero :
    position? SampleWord.zero.text (spelling.chars.map Char.toLower) =
      some (spelling.before.length + 2 + spelling.separator.length) := by
  have hletter : 'z' ∉ spelling.before ++ (SampleWord.go.text ++ spelling.separator) := by
    simp only [List.mem_append, not_or]
    refine ⟨fun h => ?_, by decide, fun h => ?_⟩
    · exact absurd (spelling.isFormatMark_before 'z' h).2 (by decide)
    · exact absurd (spelling.isFormatMark_separator 'z' h).2 (by decide)
  have hposition : position? ['z', 'e', 'r', 'o'] (spelling.before ++ (SampleWord.go.text ++ spelling.separator) ++
      (['z', 'e', 'r', 'o'] ++ spelling.after)) = _ := position?_append hletter spelling.after
  rw [map_toLower_chars]
  simp only [List.append_assoc, List.length_append] at hposition
  rw [Nat.add_assoc]
  exact hposition

theorem ofPositions_chars :
    NamingFormat.ofPositions spelling.chars spelling.before.length
      (spelling.before.length + 2 + spelling.separator.length) = .ok spelling.format := by
  have hfirst : spelling.first.1.length = 2 := by
    rw [first_eq, SampleWord.length_spelled]
    rfl
  have hrest : spelling.rest.1.length = 4 := by
    rw [rest_eq, SampleWord.length_spelled]
    rfl
  have hchars : spelling.chars =
      spelling.before ++ (spelling.first.1 ++ (spelling.separator ++ (spelling.rest.1 ++ spelling.after))) := by
    simp only [chars, List.append_assoc]
  have hfront : (spelling.before ++ spelling.first.1).length = spelling.before.length + 2 := by
    rw [List.length_append, hfirst]
  have hmiddle : (spelling.before ++ spelling.first.1 ++ spelling.separator).length =
      spelling.before.length + 2 + spelling.separator.length := by
    rw [List.length_append, hfront]
  have hwhole : (spelling.before ++ spelling.first.1 ++ spelling.separator ++ spelling.rest.1).length =
      spelling.before.length + 2 + spelling.separator.length + 4 := by
    rw [List.length_append, hmiddle, hrest]
  have hgo : spelling.chars.drop spelling.before.length =
      spelling.first.1 ++ (spelling.separator ++ (spelling.rest.1 ++ spelling.after)) := by
    rw [hchars, List.drop_left]
  have hseparator : spelling.chars.drop (spelling.before.length + 2) =
      spelling.separator ++ (spelling.rest.1 ++ spelling.after) := by
    rw [hchars, ← List.append_assoc, List.drop_left' hfront]
  have hzero : spelling.chars.drop (spelling.before.length + 2 + spelling.separator.length) =
      spelling.rest.1 ++ spelling.after := by
    rw [hchars, ← List.append_assoc, ← List.append_assoc, List.drop_left' hmiddle]
  have hafter : spelling.chars.drop (spelling.before.length + 2 + spelling.separator.length + 4) =
      spelling.after := by
    rw [hchars, ← List.append_assoc, ← List.append_assoc, ← List.append_assoc, List.drop_left' hwhole]
  refine NamingFormat.ofPositions_eq_ok_iff.2 ⟨fun c hc => (spelling.marks c hc).2, ?_, ?_, ?_, ?_, hafter⟩
  · rw [hchars, List.take_left]
    rfl
  · rw [hgo, List.take_left' hfirst]
    exact spelling.first_eq
  · rw [hseparator, Nat.add_sub_cancel_left, List.take_left]
    rfl
  · rw [hzero, List.take_left' hrest]
    exact spelling.rest_eq

theorem parseChars_chars : NamingFormat.parseChars spelling.chars = .ok spelling.format := by
  have hascii : spelling.chars.all (·.toNat < 0x80) = true := by
    simpa [Text.IsAscii] using spelling.isAscii_chars
  unfold NamingFormat.parseChars
  rw [hascii]
  simp only [position?_go, position?_zero]
  rw [if_neg (by decide), if_pos (by omega)]
  exact spelling.ofPositions_chars

end FormatSpelling

namespace NamingFormat

variable {s : List Char} {format : NamingFormat}

/-! ### From the format to the grammar -/

/-- A text that is read is put together from what stands at and between its two places. -/
theorem exists_spelling_of_ofPositions {goAt zeroAt : Nat} (hascii : Text.IsAscii s)
    (hplaces : goAt + 2 ≤ zeroAt) (h : ofPositions s goAt zeroAt = .ok format) :
    ∃ spelling : FormatSpelling, spelling.chars = s ∧ spelling.format = format := by
  obtain ⟨hmarks, hbefore, hfirst, hseparator, hrest, hafter⟩ := ofPositions_eq_ok_iff.1 h
  have hcut : ∀ i j, i ≤ j → (s.drop i).take (j - i) ++ s.drop j = s.drop i := by
    intro i j hij
    obtain ⟨n, rfl⟩ := Nat.exists_eq_add_of_le hij
    rw [Nat.add_sub_cancel_left, ← List.drop_drop, List.take_append_drop]
  have hgo := hcut goAt (goAt + 2) (Nat.le_add_right ..)
  have hzero := hcut zeroAt (zeroAt + 4) (Nat.le_add_right ..)
  rw [Nat.add_sub_cancel_left] at hgo hzero
  have hchars : format.chars = s := by
    calc format.chars
        = s.take goAt ++ ((s.drop goAt).take 2 ++ ((s.drop (goAt + 2)).take (zeroAt - (goAt + 2)) ++
            ((s.drop zeroAt).take 4 ++ s.drop (zeroAt + 4)))) := by
          rw [hbefore, hfirst, hseparator, hrest, hafter]
          simp only [chars, List.append_assoc]
      _ = s := by rw [hzero, hcut _ _ hplaces, hgo, List.take_append_drop]
  have hascii : ∀ c ∈ format.before ++ format.separator ++ format.after, c.toNat < 128 := by
    intro c hc
    apply hascii c
    rw [← hchars]
    simp only [List.mem_append] at hc
    rcases hc with (hc | hc) | hc <;> simp [chars, hc]
  refine ⟨⟨format.before, (SampleWord.go.spelled format.first, format.first), format.separator,
    (SampleWord.zero.spelled format.rest, format.rest), format.after, SampleWord.mem_spellings_iff.2 rfl,
    SampleWord.mem_spellings_iff.2 rfl, fun c hc => ⟨hascii c hc, hmarks c hc⟩⟩, ?_, rfl⟩
  exact hchars

/-- The reader accepts exactly the texts of the grammar. -/
theorem parseChars_eq_ok_iff :
    parseChars s = .ok format ↔
      ∃ spelling : FormatSpelling, spelling.chars = s ∧ spelling.format = format := by
  constructor
  · intro h
    unfold parseChars at h
    split at h
    · cases h
    case isFalse hascii =>
      have hascii : Text.IsAscii s := by simpa [Text.IsAscii] using hascii
      simp only at h
      split at h
      case h_1 goAt zeroAt _ _ =>
        split at h
        case isTrue hplaces => exact exists_spelling_of_ofPositions hascii hplaces h
        · cases h
      · cases h
  · rintro ⟨spelling, rfl, rfl⟩
    exact spelling.parseChars_chars

end NamingFormat

/-- A text follows the grammar in one way only: both ways would make the format that is read. -/
theorem FormatSpelling.eq_of_chars_eq {spelling other : FormatSpelling}
    (h : spelling.chars = other.chars) : spelling = other := by
  have hformat : spelling.format = other.format := by
    have hread := spelling.parseChars_chars
    rw [h, other.parseChars_chars] at hread
    exact (Except.ok.inj hread).symm
  obtain ⟨hbefore, hfirst, hseparator, hrest, hafter⟩ := NamingFormat.mk.inj hformat
  refine FormatSpelling.ext hbefore ?_ hseparator ?_ hafter
  · exact Prod.ext (by rw [first_eq, first_eq, hfirst]) hfirst
  · exact Prod.ext (by rw [rest_eq, rest_eq, hrest]) hrest

namespace NamingFormat

theorem ofText_eq_ok_iff {s : String} {format : NamingFormat} :
    ofText s = .ok format ↔
      ∃ spelling : FormatSpelling, spelling.chars = s.toList ∧ spelling.format = format := by
  rw [← parseChars_eq_ok_iff]
  unfold ofText parse
  cases parseChars s.toList with
  | error fault => constructor <;> rintro ⟨⟩
  | ok parsed =>
    constructor
    · rintro ⟨⟩
      rfl
    · rintro ⟨⟩
      rfl

theorem ofText_cases (s : String) :
    (∃ format, ofText s = .ok format) ∨ ∃ fault, ofText s = .error (.configuration s fault) := by
  unfold ofText
  cases parse s with
  | ok format => exact .inl ⟨format, rfl⟩
  | error fault => exact .inr ⟨fault, rfl⟩

/-- Exactly the texts of the grammar are naming formats, each in one way: the parts of the format are those
of the text, and the format shows itself as the text. Every other text is reported, by itself and by the
options that hold it. -/
theorem reads_grammar (s : String) :
    (∀ format, ofText s = .ok format ↔
        ∃ spelling : FormatSpelling, spelling.chars = s.toList ∧ spelling.format = format) ∧
      (∀ spelling other : FormatSpelling,
        spelling.chars = s.toList → other.chars = s.toList → spelling = other) ∧
      (∀ format, ofText s = .ok format → format.text = s) ∧
      ((¬ ∃ spelling : FormatSpelling, spelling.chars = s.toList) ↔
        ∃ fault, ofText s = .error (.configuration s fault)) ∧
      ∀ cfg : Config, Text.trim cfg.namingFormat = s → s ≠ "" → cfg.naming = ofText s := by
  refine ⟨fun format => ofText_eq_ok_iff, ?unique, ?shown, ?reported, ?options⟩
  case unique =>
    intro spelling other hspelling hother
    exact FormatSpelling.eq_of_chars_eq (hspelling.trans hother.symm)
  case shown =>
    intro format hformat
    obtain ⟨spelling, hchars, rfl⟩ := ofText_eq_ok_iff.1 hformat
    rw [text, spelling.chars_format, hchars, String.ofList_toList]
  case reported =>
    constructor
    · intro hnone
      obtain ⟨format, hformat⟩ | hfault := ofText_cases s
      · obtain ⟨spelling, hchars, -⟩ := ofText_eq_ok_iff.1 hformat
        exact absurd ⟨spelling, hchars⟩ hnone
      · exact hfault
    · rintro ⟨fault, hfault⟩ ⟨spelling, hchars⟩
      rw [ofText_eq_ok_iff.2 ⟨spelling, hchars, rfl⟩] at hfault
      cases hfault
  case options =>
    rintro cfg rfl hblank
    unfold Config.naming
    simp only [beq_iff_eq, hblank, if_false]

/-- The text `_Go#zero_`, part by part. -/
def markedSpelling : FormatSpelling where
  before := ['_']
  first := (['G', 'o'], .title)
  separator := ['#']
  rest := (['z', 'e', 'r', 'o'], .lower)
  after := ['_']
  first_mem := by decide
  rest_mem := by decide
  marks := by
    have hbar : IsFormatMark '_' := by decide
    have hhash : IsFormatMark '#' := by decide
    exact List.forall_mem_cons.2 ⟨hbar, List.forall_mem_cons.2 ⟨hhash, List.forall_mem_singleton.2 hbar⟩⟩

theorem markedSpelling_reads :
    ofText "_Go#zero_" = .ok markedSpelling.format ∧ markedSpelling.format.text = "_Go#zero_" ∧
      (∀ other : FormatSpelling, other.chars = "_Go#zero_".toList → other = markedSpelling) ∧
      Config.naming { namingFormat := "  _Go#zero_ " } = .ok markedSpelling.format := by
  have hchars : markedSpelling.chars = "_Go#zero_".toList := by decide
  have hblanks : Text.trim "  _Go#zero_ " = "_Go#zero_" := by decide +kernel
  obtain ⟨hread, hunique, hshown, -, hoptions⟩ := reads_grammar "_Go#zero_"
  have hformat := (hread markedSpelling.format).2 ⟨markedSpelling, hchars, rfl⟩
  refine ⟨hformat, hshown _ hformat, fun other hother => hunique other _ hother hchars, ?_⟩
  rw [hoptions { namingFormat := "  _Go#zero_ " } hblanks (by decide), hformat]

end NamingFormat

end RouteScaffold.Naming
