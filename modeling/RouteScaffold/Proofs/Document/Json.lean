import Mathlib.Data.List.Basic
import RouteScaffold.Document.Json

/-!
# Written documents read back

What is written for a value is read as this value again, whatever follows it. Texts are escaped character
by character, so a text reads back character by character; lists and records item by item.

The main statement is `parse?_write`.
-/

namespace RouteScaffold.Json

/-! ### Texts -/

theorem hexNumber?_control {n : Nat} (h : n < 0x20) :
    Text.hexNumber? ['0', '0', Nat.digitChar (n / 16), Nat.digitChar (n % 16)] = some n := by
  revert n
  decide

/-- A character is written by a short escape, by its code point or as it is. -/
theorem escapeChar_cases (c : Char) :
    (∃ escape, escapeChar c = ['\\', escape] ∧ escapeUnit? escape = some c.toNat) ∨
      (c.toNat < 0x20 ∧ escapeChar c =
        ['\\', 'u', '0', '0', Nat.digitChar (c.toNat / 16), Nat.digitChar (c.toNat % 16)]) ∨
      (0x20 ≤ c.toNat ∧ c ≠ '"' ∧ c ≠ '\\' ∧ escapeChar c = [c]) := by
  by_cases hquote : c = '"'
  · exact .inl ⟨'"', by subst hquote; decide⟩
  by_cases hslash : c = '\\'
  · exact .inl ⟨'\\', by subst hslash; decide⟩
  by_cases hcontrol : c.toNat < 0x20
  · have hall : ∀ n, n < 0x20 → (['n', 'r', 't', 'b', 'f'].any fun escape =>
        escapeChar (Char.ofNat n) == ['\\', escape] && escapeUnit? escape == some (Char.ofNat n).toNat) ∨
          escapeChar (Char.ofNat n) = ['\\', 'u', '0', '0', Nat.digitChar ((Char.ofNat n).toNat / 16),
            Nat.digitChar ((Char.ofNat n).toNat % 16)] := by
      decide +kernel
    have hc := hall c.toNat hcontrol
    rw [Char.ofNat_toNat, List.any_eq_true] at hc
    obtain ⟨escape, -, hescape⟩ | hcode := hc
    · exact .inl ⟨escape, by simpa using hescape⟩
    · exact .inr (.inl ⟨hcontrol, hcode⟩)
  · refine .inr (.inr ⟨Nat.le_of_not_lt hcontrol, hquote, hslash, ?_⟩)
    have hne : ∀ d : Char, d.toNat < 0x20 → c ≠ d := by
      rintro d hd rfl
      exact hcontrol hd
    have hback : c.toNat ≠ 0x08 := by omega
    have hfeed : c.toNat ≠ 0x0C := by omega
    simp [escapeChar, hquote, hslash, hcontrol, hne '\n' (by decide), hne '\r' (by decide),
      hne '\t' (by decide), hback, hfeed]

/-- A character is read as its code point, however it is written. -/
theorem readUnits_escapeChar (c : Char) (rest : List Char) :
    readUnits (escapeChar c ++ rest) =
      (readUnits rest).map fun (units, after) => (c.toNat :: units, after) := by
  obtain ⟨escape, hc, hunit⟩ | ⟨hcontrol, hc⟩ | ⟨hplain, hquote, hslash, hc⟩ := escapeChar_cases c
  · have hne : escape ≠ 'u' := by
      rintro rfl
      cases hunit
    rw [hc, List.cons_append, List.cons_append, List.nil_append, readUnits, hunit, Option.bind_some]
    exact fun _ _ _ _ _ heq => absurd heq hne
  · rw [hc]
    simp only [List.cons_append, List.nil_append]
    rw [readUnits, hexNumber?_control hcontrol, Option.bind_some]
  · rw [hc, List.cons_append, List.nil_append, readUnits]
    · simp [hslash, Nat.not_lt.2 hplain]
    · exact hquote
    · exact fun _ _ _ _ _ heq => absurd heq hslash
    · exact fun _ _ heq => absurd heq hslash

theorem readUnits_escaped (s rest : List Char) :
    readUnits (s.flatMap escapeChar ++ '"' :: rest) = some (s.map Char.toNat, rest) := by
  induction s with
  | nil => simp [readUnits]
  | cons c s ih =>
    rw [List.flatMap_cons, List.append_assoc, readUnits_escapeChar, ih]
    rfl

/-- No character is half of a surrogate pair. -/
theorem joinSurrogates_map_toNat (s : List Char) : joinSurrogates (s.map Char.toNat) = some s := by
  induction s with
  | nil => rfl
  | cons c s ih =>
    have hvalid : c.toNat < 0xD800 ∨ 0xDFFF < c.toNat ∧ c.toNat < 0x110000 := c.valid
    rw [List.map_cons]
    unfold joinSurrogates
    rw [if_neg (by omega), if_neg (by omega), ih, Option.map_some, Char.ofNat_toNat]

theorem readText_escaped (s : String) (rest : List Char) :
    readText (s.toList.flatMap escapeChar ++ '"' :: rest) = some (.text s, rest) := by
  rw [readText, readUnits_escaped, Option.map_some]
  simp only [joinSurrogates_map_toNat, String.ofList_toList]

/-! ### Values -/

/-- Values made of texts, truths, lists and records of named fields; each of them has one written form. -/
inductive Plain : Datum → Prop
  | null : Plain .null
  | bool (b : Bool) : Plain (.bool b)
  | text (s : String) : Plain (.text s)
  | list {items : List Datum} (h : ∀ item ∈ items, Plain item) : Plain (.list items)
  | record {fields : List (String × Datum)} (h : ∀ field ∈ fields, Plain field.2) :
    Plain (.record (fields.map fun field => (.text field.1, field.2)))

/-- The characters of a written value. -/
def written (d : Datum) : List Char := (write d).toList

def writtenItems (items : List Datum) : List Char :=
  [','].intercalate (items.map written)

def writtenField (field : String × Datum) : List Char :=
  '"' :: (field.1.toList.flatMap escapeChar ++ '"' :: ':' :: written field.2)

def writtenFields (fields : List (String × Datum)) : List Char :=
  [','].intercalate (fields.map writtenField)

theorem written_text (s : String) : written (.text s) = '"' :: (s.toList.flatMap escapeChar ++ ['"']) := by
  simp [written, write, quote]

theorem writeItems_eq_map (items : List Datum) : writeItems items = items.map write := by
  induction items with
  | nil => rfl
  | cons item items ih => rw [writeItems, ih, List.map_cons]

theorem writeFields_eq_map (fields : List (Datum × Datum)) :
    writeFields fields = fields.map fun field => write field.1 ++ ":" ++ write field.2 := by
  induction fields with
  | nil => rfl
  | cons field fields ih => rw [writeFields, ih, List.map_cons]

theorem written_list (items : List Datum) :
    written (.list items) = '[' :: (writtenItems items ++ [']']) := by
  rw [written, write, writeItems_eq_map, String.toList_append, String.toList_append, String.toList_intercalate,
    List.map_map]
  rfl

theorem written_record (fields : List (String × Datum)) :
    written (.record (fields.map fun field => (.text field.1, field.2))) =
      '{' :: (writtenFields fields ++ ['}']) := by
  have hfield : ∀ field : String × Datum,
      (write (.text field.1) ++ ":" ++ write field.2).toList = writtenField field := by
    intro field
    have hname := written_text field.1
    rw [written] at hname
    rw [String.toList_append, String.toList_append, hname]
    simp [writtenField, written]
  rw [written, write, writeFields_eq_map, String.toList_append, String.toList_append,
    String.toList_intercalate, List.map_map, List.map_map]
  simp only [Function.comp_def, hfield]
  rfl

/-! ### Reading them -/

section Reading

variable {c : Char} {d : Datum} {rest : List Char}

theorem skipBlanks_cons (h : isBlank c = false) : skipBlanks (c :: rest) = c :: rest := by
  simp [skipBlanks, h]

theorem expect_self (c : Char) (rest : List Char) : expect c (c :: rest) = some rest := by
  simp [expect]

/-- A written value begins with a character that is neither blank nor closes a list. -/
theorem Plain.exists_written_eq (h : Plain d) :
    ∃ c more, written d = c :: more ∧ isBlank c = false ∧ c ≠ ']' := by
  cases h with
  | null => exact ⟨'n', ['u', 'l', 'l'], by decide, by decide, by decide⟩
  | bool b =>
    cases b with
    | false => exact ⟨'f', ['a', 'l', 's', 'e'], by decide, by decide, by decide⟩
    | true => exact ⟨'t', ['r', 'u', 'e'], by decide, by decide, by decide⟩
  | text s => exact ⟨_, _, written_text s, by decide, by decide⟩
  | list _ => exact ⟨_, _, written_list _, by decide, by decide⟩
  | record _ => exact ⟨_, _, written_record _, by decide, by decide⟩

theorem exists_intercalate_eq (separator : List Char) (more : List Char) (parts : List (List Char)) :
    ∃ tail, separator.intercalate ((c :: more) :: parts) = c :: tail := by
  cases parts with
  | nil => exact ⟨more, List.intercalate_singleton ..⟩
  | cons part parts => exact ⟨_, List.intercalate_cons_cons ..⟩

/-- What begins with another character does not end a list or a record here. -/
theorem expect_skipBlanks_of_ne {closing : Char} (hblank : isBlank c = false) (hne : c ≠ closing) :
    expect closing (skipBlanks (c :: rest)) = none := by
  rw [skipBlanks_cons hblank, expect, beq_false_of_ne hne.symm]
  rfl

/-- With more fuel than characters the written form is read as the value, whatever follows it. -/
def ReadsBack (d : Datum) : Prop :=
  ∀ fuel rest, (written d).length < fuel → readValue fuel (written d ++ rest) = some (d, rest)

theorem readItems_written {items : List Datum} (hne : items ≠ []) (h : ∀ item ∈ items, ReadsBack item)
    {fuel : Nat} (hfuel : (writtenItems items).length + 1 < fuel) (rest : List Char) :
    readItems fuel (writtenItems items ++ ']' :: rest) = some (items, rest) := by
  -- one call for each item, paid for by the comma behind it
  induction items generalizing fuel with
  | nil => exact absurd rfl hne
  | cons item items ih =>
    obtain ⟨hitem, hitems⟩ := List.forall_mem_cons.1 h
    cases fuel with
    | zero => omega
    | succ fuel =>
      rw [readItems]
      cases items with
      | nil =>
        have hwritten : writtenItems [item] = written item := by simp [writtenItems]
        rw [hwritten] at hfuel ⊢
        rw [hitem fuel _ (by omega), Option.bind_some]
        simp only [skipBlanks_cons (c := ']') (by decide)]
      | cons next items =>
        have hwritten : writtenItems (item :: next :: items) =
            written item ++ ',' :: writtenItems (next :: items) := by
          simp [writtenItems, List.intercalate_cons_cons]
        rw [hwritten, List.length_append, List.length_cons] at hfuel
        rw [hwritten, List.append_assoc, hitem fuel _ (by omega), Option.bind_some, List.cons_append]
        simp only [skipBlanks_cons (c := ',') (by decide)]
        rw [ih (List.cons_ne_nil _ _) hitems (by omega)]
        rfl

/-- The first field is read, whatever follows its value. -/
theorem readFields_writtenField {field : String × Datum} (h : ReadsBack field.2) {fuel : Nat}
    (hfuel : (writtenField field).length ≤ fuel) (rest : List Char) :
    readFields (fuel + 1) (writtenField field ++ '}' :: rest) = some ([(.text field.1, field.2)], rest) ∧
      readFields (fuel + 1) (writtenField field ++ ',' :: rest) =
        (readFields fuel rest).map fun (fields, rest) => ((.text field.1, field.2) :: fields, rest) := by
  have hwritten : ∀ after, writtenField field ++ after =
      '"' :: (field.1.toList.flatMap escapeChar ++ '"' :: ':' :: (written field.2 ++ after)) := by
    intro after
    simp [writtenField]
  have hvalue : ∀ after, readValue fuel (written field.2 ++ after) = some (field.2, after) := by
    intro after
    apply h
    simp only [writtenField, List.length_cons, List.length_append] at hfuel
    omega
  constructor
  · rw [hwritten, readFields]
    simp only [skipBlanks_cons (c := '"') (by decide), expect_self, Option.bind_some, readText_escaped,
      skipBlanks_cons (c := ':') (by decide), hvalue, skipBlanks_cons (c := '}') (by decide)]
  · rw [hwritten, readFields]
    simp only [skipBlanks_cons (c := '"') (by decide), expect_self, Option.bind_some, readText_escaped,
      skipBlanks_cons (c := ':') (by decide), hvalue, skipBlanks_cons (c := ',') (by decide)]

theorem readFields_written {fields : List (String × Datum)} (hne : fields ≠ [])
    (h : ∀ field ∈ fields, ReadsBack field.2) {fuel : Nat}
    (hfuel : (writtenFields fields).length + 1 < fuel) (rest : List Char) :
    readFields fuel (writtenFields fields ++ '}' :: rest) =
      some (fields.map fun field => (.text field.1, field.2), rest) := by
  induction fields generalizing fuel with
  | nil => exact absurd rfl hne
  | cons field fields ih =>
    obtain ⟨hfield, hfields⟩ := List.forall_mem_cons.1 h
    cases fuel with
    | zero => omega
    | succ fuel =>
      cases fields with
      | nil =>
        have hwritten : writtenFields [field] = writtenField field := by simp [writtenFields]
        rw [hwritten] at hfuel ⊢
        rw [(readFields_writtenField hfield (by omega) rest).1]
        rfl
      | cons next fields =>
        have hwritten : writtenFields (field :: next :: fields) =
            writtenField field ++ ',' :: writtenFields (next :: fields) := by
          simp [writtenFields, List.intercalate_cons_cons]
        rw [hwritten, List.length_append, List.length_cons] at hfuel
        rw [hwritten, List.append_assoc, List.cons_append,
          (readFields_writtenField hfield (by omega) _).2, ih (List.cons_ne_nil _ _) hfields (by omega)]
        rfl

theorem ReadsBack.list {items : List Datum} (hplain : ∀ item ∈ items, Plain item)
    (h : ∀ item ∈ items, ReadsBack item) : ReadsBack (.list items) := by
  intro fuel rest hfuel
  rw [written_list, List.length_cons, List.length_append, List.length_singleton] at hfuel
  cases fuel with
  | zero => omega
  | succ fuel =>
    rw [written_list, List.cons_append, List.append_assoc, List.singleton_append, readValue,
      skipBlanks_cons (by decide)]
    simp only
    cases items with
    | nil =>
      have hempty : writtenItems [] = [] := rfl
      rw [hempty, List.nil_append, skipBlanks_cons (by decide), expect_self]
    | cons item items =>
      -- the list must not be taken for an empty one, so its first item must not begin like its end
      obtain ⟨c, more, hitem, hblank, hne⟩ := (hplain item List.mem_cons_self).exists_written_eq
      obtain ⟨tail, htail⟩ : ∃ tail, writtenItems (item :: items) = c :: tail := by
        unfold writtenItems
        rw [List.map_cons, hitem]
        exact exists_intercalate_eq ..
      have hread := readItems_written (List.cons_ne_nil item items) h (Nat.lt_of_succ_lt_succ hfuel) rest
      rw [htail, List.cons_append] at hread ⊢
      rw [expect_skipBlanks_of_ne hblank hne, hread]
      rfl

theorem ReadsBack.record {fields : List (String × Datum)} (h : ∀ field ∈ fields, ReadsBack field.2) :
    ReadsBack (.record (fields.map fun field => (.text field.1, field.2))) := by
  intro fuel rest hfuel
  rw [written_record, List.length_cons, List.length_append, List.length_singleton] at hfuel
  cases fuel with
  | zero => omega
  | succ fuel =>
    rw [written_record, List.cons_append, List.append_assoc, List.singleton_append, readValue,
      skipBlanks_cons (by decide)]
    simp only
    cases fields with
    | nil =>
      have hempty : writtenFields [] = [] := rfl
      rw [hempty, List.nil_append, skipBlanks_cons (by decide), expect_self]
      rfl
    | cons field fields =>
      obtain ⟨tail, htail⟩ : ∃ tail, writtenFields (field :: fields) = '"' :: tail :=
        exists_intercalate_eq ..
      have hread := readFields_written (List.cons_ne_nil field fields) h (Nat.lt_of_succ_lt_succ hfuel) rest
      rw [htail, List.cons_append] at hread ⊢
      rw [expect_skipBlanks_of_ne (by decide) (by decide), hread]
      rfl

/-- A word without arguments is read as what it stands for. -/
theorem ReadsBack.of_word {word : List Char} (hwritten : written d = word)
    (hread : ∀ fuel rest, readValue (fuel + 1) (word ++ rest) = some (d, rest)) : ReadsBack d := by
  intro fuel rest hfuel
  cases fuel with
  | zero => omega
  | succ fuel => rw [hwritten, hread]

theorem ReadsBack.text (s : String) : ReadsBack (.text s) := by
  intro fuel rest hfuel
  cases fuel with
  | zero => omega
  | succ fuel =>
    rw [written_text, List.cons_append, List.append_assoc, List.singleton_append, readValue,
      skipBlanks_cons (by decide)]
    exact readText_escaped s rest

/-- A plain value is read back from its written form. -/
theorem Plain.readsBack (h : Plain d) : ReadsBack d := by
  induction h with
  | null =>
    have hwritten : written .null = ['n', 'u', 'l', 'l'] := by decide
    exact .of_word hwritten fun fuel rest => by simp [readValue, skipBlanks_cons (c := 'n') (by decide)]
  | bool b =>
    cases b with
    | false =>
      have hwritten : written (.bool false) = ['f', 'a', 'l', 's', 'e'] := by decide
      exact .of_word hwritten fun fuel rest => by simp [readValue, skipBlanks_cons (c := 'f') (by decide)]
    | true =>
      have hwritten : written (.bool true) = ['t', 'r', 'u', 'e'] := by decide
      exact .of_word hwritten fun fuel rest => by simp [readValue, skipBlanks_cons (c := 't') (by decide)]
  | text s => exact .text s
  | list hplain ih => exact .list hplain ih
  | record _ ih => exact .record ih

end Reading

/-- Reading a document gives the value that was written. -/
theorem parse?_write {d : Datum} (h : Plain d) : parse? (write d) = some d := by
  have hread := h.readsBack ((write d).toList.length + 1) [] (Nat.lt_succ_self _)
  rw [List.append_nil] at hread
  unfold parse?
  simp only
  change (readValue _ (written d)).bind _ = _
  rw [hread]
  rfl

end RouteScaffold.Json
