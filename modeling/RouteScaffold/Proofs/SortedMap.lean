import Mathlib.Data.List.Basic
import RouteScaffold.SortedMap

/-!
# Keys and entries of sorted maps

A write looks for its key and touches nothing else: the other entries stay as they are, and the keys stay as they
are spelled. Only a key that is not there yet is added.
-/

namespace RouteScaffold.SortedMap

variable {κ ν : Type} [Ord κ] {m : SortedMap κ ν} {key a : κ} {value : ν}

theorem mem_of_get? [Std.LawfulEqOrd κ] (h : m.get? key = some value) : (key, value) ∈ m.entries := by
  obtain ⟨⟨found, _⟩, hfind, rfl⟩ := Option.map_eq_some_iff.1 h
  have hcompare : compare key found = .eq := by simpa using List.find?_some hfind
  rw [Std.LawfulEqOrd.eq_of_compare hcompare]
  exact List.mem_of_find?_eq_some hfind

theorem get?_eq_none_iff_keys : m.get? key = none ↔ ∀ k ∈ m.keys, compare key k ≠ .eq := by
  rw [get?, Option.map_eq_none_iff, List.find?_eq_none, keys, List.forall_mem_map]
  simp only [beq_iff_eq, ne_eq]

theorem pairwise_keys (m : SortedMap κ ν) : m.keys.Pairwise fun a b => compare a b = .lt := by
  rw [keys, List.pairwise_map]
  exact m.sorted

variable [Std.TransOrd κ]

/-- An entry is what a look-up under its key finds. -/
theorem get?_of_mem {entry : κ × ν} (h : entry ∈ m.entries) : m.get? entry.1 = some entry.2 := by
  obtain ⟨before, after, hentries⟩ := List.append_of_mem h
  have hsorted := m.sorted
  rw [hentries] at hsorted
  have hbefore : before.find? (fun e => compare entry.1 e.1 == .eq) = none := by
    refine List.find?_eq_none.2 fun earlier hearlier => ?_
    have hlt := (List.pairwise_append.1 hsorted).2.2 earlier hearlier entry List.mem_cons_self
    simp [Std.OrientedCmp.gt_of_lt hlt]
  rw [get?, hentries, List.find?_append, hbefore, Option.none_or, List.find?_cons_of_pos]
  · rfl
  · simp

theorem map_fst_insertEntry {entries : List (κ × ν)}
    (hsorted : entries.Pairwise fun a b => compare a.1 b.1 = .lt)
    (h : ∃ e ∈ entries, compare key e.1 = .eq) :
    (insertEntry key value entries).map Prod.fst = entries.map Prod.fst := by
  induction entries with
  | nil =>
    obtain ⟨_, he, -⟩ := h
    cases he
  | cons head rest ih =>
    obtain ⟨k, v⟩ := head
    obtain ⟨hhead, hrest⟩ := List.pairwise_cons.1 hsorted
    obtain ⟨e, he, heq⟩ := h
    rw [insertEntry]
    split
    case h_1 hlt =>
      -- The keys from here on are all greater.
      exfalso
      rcases List.mem_cons.1 he with rfl | he
      · rw [hlt] at heq
        cases heq
      · rw [Std.TransCmp.lt_trans hlt (hhead e he)] at heq
        cases heq
    case h_2 => rfl
    case h_3 hgt =>
      rcases List.mem_cons.1 he with rfl | he
      · rw [hgt] at heq
        cases heq
      · rw [List.map_cons, List.map_cons, ih hrest ⟨e, he, heq⟩]

theorem keys_insert_of_get? (h : m.get? key ≠ none) : (m.insert key value).keys = m.keys := by
  rw [Ne, get?_eq_none_iff_keys, keys, List.forall_mem_map] at h
  push Not at h
  exact map_fst_insertEntry m.sorted h

/-- A key joins the others when none of them is the same, and then as it is spelled. -/
theorem mem_keys_insert :
    a ∈ (m.insert key value).keys ↔ a ∈ m.keys ∨ a = key ∧ m.get? key = none := by
  by_cases hfree : m.get? key = none
  · have hkeys : (m.insert key value).keys.Perm (key :: m.keys) :=
      (perm_entries_insert value hfree).map Prod.fst
    rw [hkeys.mem_iff, List.mem_cons, or_comm]
    simp [hfree]
  · rw [keys_insert_of_get? hfree]
    simp [hfree]

theorem filter_entries_insert (m : SortedMap κ ν) (key : κ) (value : ν) :
    ((m.insert key value).entries.filter fun e => compare key e.1 != .eq) =
      m.entries.filter fun e => compare key e.1 != .eq := by
  change (insertEntry key value m.entries).filter _ = _
  induction m.entries with
  | nil => simp [insertEntry]
  | cons head rest ih =>
    obtain ⟨k, v⟩ := head
    rw [insertEntry]
    split
    case h_1 => exact List.filter_cons_of_neg (by simp)
    case h_2 heq => simp [heq]
    case h_3 hgt => rw [List.filter_cons, List.filter_cons, ih]

end RouteScaffold.SortedMap
