/-!
Finite maps whose entries stand in key order.

Keys are told apart by their order alone: two keys that compare equal are one key, and the key that
came first stays when its value is replaced. Main statements: `get?_insert` and, for a new key,
`perm_entries_insert`.
-/

namespace RouteScaffold

/-- Entries in strictly increasing order of their keys. -/
structure SortedMap (κ ν : Type) [Ord κ] where
  entries : List (κ × ν)
  sorted : entries.Pairwise fun a b => compare a.1 b.1 = .lt

namespace SortedMap

variable {κ ν : Type} [Ord κ]

def empty : SortedMap κ ν := ⟨[], .nil⟩

instance : Inhabited (SortedMap κ ν) := ⟨empty⟩

def get? (m : SortedMap κ ν) (key : κ) : Option ν :=
  (m.entries.find? fun e => compare key e.1 == .eq).map Prod.snd

def keys (m : SortedMap κ ν) : List κ :=
  m.entries.map Prod.fst

def size (m : SortedMap κ ν) : Nat :=
  m.entries.length

theorem ext {m n : SortedMap κ ν} (h : m.entries = n.entries) : m = n := by
  cases m
  cases n
  cases h
  rfl

instance [DecidableEq κ] [DecidableEq ν] : DecidableEq (SortedMap κ ν) := fun m n =>
  decidable_of_iff (m.entries = n.entries) ⟨ext, fun h => h ▸ rfl⟩

@[simp] theorem get?_empty (key : κ) : (empty : SortedMap κ ν).get? key = none := rfl

def insertEntry (key : κ) (value : ν) : List (κ × ν) → List (κ × ν)
  | [] => [(key, value)]
  | (k, v) :: rest =>
    match compare key k with
    | .lt => (key, value) :: (k, v) :: rest
    | .eq => (k, value) :: rest
    | .gt => (k, v) :: insertEntry key value rest

theorem fst_of_mem_insertEntry {key : κ} {value : ν} {entries : List (κ × ν)} {e : κ × ν}
    (he : e ∈ insertEntry key value entries) : e.1 = key ∨ ∃ e' ∈ entries, e'.1 = e.1 := by
  induction entries with
  | nil => exact .inl (congrArg Prod.fst (List.mem_singleton.1 he))
  | cons head rest ih =>
    obtain ⟨k, v⟩ := head
    rw [insertEntry] at he
    split at he
    · rcases List.mem_cons.1 he with rfl | he
      · exact .inl rfl
      · exact .inr ⟨e, he, rfl⟩
    · rcases List.mem_cons.1 he with rfl | he
      · exact .inr ⟨(k, v), List.mem_cons_self .., rfl⟩
      · exact .inr ⟨e, List.mem_cons_of_mem _ he, rfl⟩
    · rcases List.mem_cons.1 he with rfl | he
      · exact .inr ⟨(k, v), List.mem_cons_self .., rfl⟩
      · rcases ih he with h | ⟨e', he', h⟩
        · exact .inl h
        · exact .inr ⟨e', List.mem_cons_of_mem _ he', h⟩

variable [Std.TransOrd κ]

theorem pairwise_insertEntry (key : κ) (value : ν) {entries : List (κ × ν)}
    (h : entries.Pairwise fun a b => compare a.1 b.1 = .lt) :
    (insertEntry key value entries).Pairwise fun a b => compare a.1 b.1 = .lt := by
  induction entries with
  | nil => exact List.pairwise_singleton ..
  | cons head rest ih =>
    obtain ⟨k, v⟩ := head
    obtain ⟨hhead, hrest⟩ := List.pairwise_cons.1 h
    rw [insertEntry]
    split
    case h_1 hlt =>
      refine List.pairwise_cons.2 ⟨fun e he => ?_, h⟩
      rcases List.mem_cons.1 he with rfl | he
      · exact hlt
      · exact Std.TransCmp.lt_trans hlt (hhead e he)
    case h_2 => exact List.pairwise_cons.2 ⟨hhead, hrest⟩
    case h_3 hgt =>
      refine List.pairwise_cons.2 ⟨fun e he => ?_, ih hrest⟩
      rcases fst_of_mem_insertEntry he with hkey | ⟨e', he', hkey⟩
      · rw [hkey]
        exact Std.OrientedCmp.gt_iff_lt.1 hgt
      · rw [← hkey]
        exact hhead e' he'

/-- Sets the value of a key; a key that is already there keeps its first spelling. -/
def insert (m : SortedMap κ ν) (key : κ) (value : ν) : SortedMap κ ν :=
  ⟨insertEntry key value m.entries, pairwise_insertEntry key value m.sorted⟩

/-- The map of a list of entries; of two entries with one key the later value counts. -/
def ofList (entries : List (κ × ν)) : SortedMap κ ν :=
  entries.foldl (fun m e => m.insert e.1 e.2) empty

theorem find?_insertEntry (key a : κ) (value : ν) (entries : List (κ × ν)) :
    ((insertEntry key value entries).find? fun e => compare a e.1 == .eq).map Prod.snd =
      if compare a key = .eq then some value
      else (entries.find? fun e => compare a e.1 == .eq).map Prod.snd := by
  induction entries with
  | nil => by_cases h : compare a key = .eq <;> simp [insertEntry, h]
  | cons head rest ih =>
    obtain ⟨k, v⟩ := head
    rw [insertEntry]
    split
    case h_1 => by_cases h : compare a key = .eq <;> simp [h]
    case h_2 heq =>
      have hcongr : compare a k = compare a key := (Std.TransCmp.congr_right heq).symm
      by_cases h : compare a key = .eq <;> simp [hcongr, h]
    case h_3 hgt =>
      by_cases hk : compare a k = .eq
      · have hne : compare a key ≠ .eq := by
          intro h
          have hkey := Std.TransCmp.eq_trans (Std.OrientedCmp.eq_symm h) hk
          rw [hkey] at hgt
          cases hgt
        simp [hk, hne]
      · simpa [List.find?_cons, hk] using ih

/-- A look-up after a write sees the written value under its own key and all others unchanged. -/
theorem get?_insert (m : SortedMap κ ν) (key a : κ) (value : ν) :
    (m.insert key value).get? a = if compare a key = .eq then some value else m.get? a :=
  find?_insertEntry key a value m.entries

theorem insertEntry_of_find? {key : κ} {value : ν} {entries : List (κ × ν)}
    (hsorted : entries.Pairwise fun a b => compare a.1 b.1 = .lt)
    (h : (entries.find? fun e => compare key e.1 == .eq).map Prod.snd = some value) :
    insertEntry key value entries = entries := by
  induction entries with
  | nil => cases h
  | cons head rest ih =>
    obtain ⟨k, v⟩ := head
    obtain ⟨hhead, hrest⟩ := List.pairwise_cons.1 hsorted
    rw [insertEntry]
    split
    case h_1 hlt =>
      -- every later key is greater still, so none of them could have been found
      have hnone : (((k, v) :: rest).find? fun e => compare key e.1 == .eq) = none := by
        refine List.find?_eq_none.2 fun e he => ?_
        rcases List.mem_cons.1 he with rfl | he
        · simp [hlt]
        · simp [Std.TransCmp.lt_trans hlt (hhead e he)]
      rw [hnone] at h
      cases h
    case h_2 heq =>
      simp only [List.find?_cons, heq, beq_self_eq_true, Option.map_some, Option.some.injEq] at h
      rw [h]
    case h_3 hgt =>
      simp only [List.find?_cons, hgt] at h
      rw [ih hrest h]

/-- To write what is there already changes nothing. -/
theorem insert_of_get? {m : SortedMap κ ν} {key : κ} {value : ν} (h : m.get? key = some value) :
    m.insert key value = m :=
  ext (insertEntry_of_find? m.sorted h)

omit [Std.TransOrd κ] in
theorem perm_insertEntry {key : κ} (value : ν) {entries : List (κ × ν)}
    (h : ∀ e ∈ entries, compare key e.1 ≠ .eq) :
    (insertEntry key value entries).Perm ((key, value) :: entries) := by
  induction entries with
  | nil => exact .refl _
  | cons head rest ih =>
    obtain ⟨k, v⟩ := head
    rw [insertEntry]
    split
    case h_1 => exact .refl _
    case h_2 heq => exact absurd heq (h (k, v) (List.mem_cons_self ..))
    case h_3 =>
      have hrest := ih fun e he => h e (List.mem_cons_of_mem _ he)
      exact (hrest.cons (k, v)).trans (.swap ..)

omit [Std.TransOrd κ] in
theorem get?_eq_none_iff [Std.LawfulEqOrd κ] {m : SortedMap κ ν} {key : κ} :
    m.get? key = none ↔ ∀ e ∈ m.entries, e.1 ≠ key := by
  simp only [get?, Option.map_eq_none_iff, List.find?_eq_none, beq_iff_eq,
    Std.LawfulEqOrd.compare_eq_iff_eq]
  exact forall₂_congr fun e _ => ne_comm

/-- A write under a new key adds one entry and keeps all others. -/
theorem perm_entries_insert {m : SortedMap κ ν} {key : κ} (value : ν) (h : m.get? key = none) :
    (m.insert key value).entries.Perm ((key, value) :: m.entries) := by
  refine perm_insertEntry value fun e he => ?_
  rw [get?, Option.map_eq_none_iff, List.find?_eq_none] at h
  simpa using h e he

end SortedMap

end RouteScaffold
