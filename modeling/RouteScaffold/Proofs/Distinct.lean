import Mathlib.Data.List.Nodup
import Mathlib.Data.List.Pairwise

/-!
# Walks that refuse what was seen

A walk that keeps what it has seen and stops at the first repetition gets to the end exactly when its
items are distinct and none was seen before.
-/

namespace List

variable {α β : Type}

theorem lookup_eq_none_iff_notMem [BEq α] [LawfulBEq α] {entries : List (α × β)} {key : α} :
    entries.lookup key = none ↔ key ∉ entries.map Prod.fst := by
  rw [lookup_eq_none_iff, mem_map]
  constructor
  · rintro h ⟨p, hp, rfl⟩
    exact absurd (h p hp) (by simp)
  · intro h p hp
    rw [bne_iff_ne]
    rintro rfl
    exact h ⟨p, hp, rfl⟩

/-- One step of such a walk. -/
theorem nodup_fresh_cons_iff {x : α} {xs seen : List α} :
    ((x :: xs).Nodup ∧ ∀ y ∈ x :: xs, y ∉ seen) ↔
      x ∉ seen ∧ xs.Nodup ∧ ∀ y ∈ xs, y ∉ x :: seen := by
  rw [nodup_cons, forall_mem_cons]
  constructor
  · rintro ⟨⟨hx, hxs⟩, hseen, hrest⟩
    refine ⟨hseen, hxs, fun y hy hmem => ?_⟩
    rcases mem_cons.1 hmem with rfl | hmem
    · exact hx hy
    · exact hrest y hy hmem
  · rintro ⟨hseen, hxs, hrest⟩
    refine ⟨⟨fun hx => hrest x hx mem_cons_self, hxs⟩, hseen, fun y hy hmem => ?_⟩
    exact hrest y hy (mem_cons_of_mem x hmem)

/-- Blocks put end to end are distinct when none repeats an item and no two of them share one. -/
theorem nodup_flatMap_iff_disjoint {f : α → List β} {xs : List α} (hne : ∀ x ∈ xs, f x ≠ []) :
    (xs.flatMap f).Nodup ↔
      xs.Nodup ∧ (∀ x ∈ xs, (f x).Nodup) ∧
        ∀ x ∈ xs, ∀ y ∈ xs, x ≠ y → (f x).Disjoint (f y) := by
  rw [nodup_flatMap]
  constructor
  · rintro ⟨hblocks, hpairs⟩
    have hxs : xs.Nodup := by
      refine hpairs.imp_of_mem fun {x y} hx _ hdisjoint heq => ?_
      obtain ⟨item, hitem⟩ := exists_mem_of_ne_nil (f x) (hne x hx)
      exact hdisjoint hitem (heq ▸ hitem)
    have hsymm : Std.Symm (Function.onFun Disjoint f) := ⟨fun _ _ => disjoint_symm⟩
    exact ⟨hxs, hblocks, fun x hx y hy => hpairs.forall hx hy⟩
  · rintro ⟨hxs, hblocks, hdisjoint⟩
    exact ⟨hblocks, hxs.imp_of_mem fun hx hy => hdisjoint _ hx _ hy⟩

end List
