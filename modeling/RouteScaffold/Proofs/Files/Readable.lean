import RouteScaffold.Proofs.Files.Follow

/-!
# Paths of files that can be read

Only the empty path and spellings of the root have no parent. The empty path leads nowhere and the root is a
directory, so a file that can be read has a directory around it.

The main statement is `exists_parent?_of_readText`.
-/

namespace RouteScaffold

namespace Path

variable {path : Path}

theorem isNoise_of_dropLastName {segments : List String} (h : dropLastName segments = none) :
    ∀ segment ∈ segments, isNoise segment = true := by
  intro segment hsegment
  by_contra hname
  rw [Bool.not_eq_true] at hname
  unfold dropLastName at h
  split at h
  case h_1 hnil => exact dropNoise_ne_nil ⟨segment, hsegment, hname⟩ hnil
  case h_2 => cases h

/-- A path without a parent is empty or begins at the root, and names nothing. -/
theorem segments_of_parent? (h : path.parent? = none) :
    ∃ rest, path.segments = "" :: rest ∧ ∀ segment ∈ rest, isNoise segment = true := by
  unfold parent? at h
  split at h
  case h_1 next rest hsegments =>
    exact ⟨next :: rest, hsegments, isNoise_of_dropLastName (Option.map_eq_none_iff.1 h)⟩
  case h_2 rest hsegments => split at h <;> cases h
  case h_3 segments hroot hcurrent =>
    have hnoise := isNoise_of_dropLastName (Option.map_eq_none_iff.1 h)
    have hne : path.segments ≠ [] := segments_ne_nil
    obtain ⟨first, rest, hsegments⟩ := List.exists_cons_of_ne_nil hne
    rw [hsegments] at hnoise
    obtain ⟨hfirst, hrest⟩ := List.forall_mem_cons.1 hnoise
    obtain rfl | rfl : first = "" ∨ first = "." := by simpa [isNoise] using hfirst
    · exact ⟨rest, hsegments, hrest⟩
    · exact absurd hsegments (hcurrent rest)

end Path

namespace FileTree

variable {tree : FileTree} {path : Path}

theorem follow_of_locate {place : Place} (h : tree.locate path = .ok place) :
    path.text ≠ "" ∧ tree.follow (if path.isAbsolute then [] else tree.current) path.segments = .ok place := by
  unfold locate locateAlong at h
  split at h
  · cases h
  split at h
  · cases h
  case isFalse htext =>
    split at h
    · cases h
    · exact ⟨by simpa using htext, h⟩

theorem follow_of_isNoise {place : Place} (hnode : tree.node? place = some .directory) {names : List String}
    (h : ∀ name ∈ names, Path.isNoise name = true) : tree.follow place names = .ok place := by
  induction names with
  | nil => rfl
  | cons name names ih =>
    obtain ⟨hname, hnames⟩ := List.forall_mem_cons.1 h
    unfold follow
    simp only [hnode, hname, if_true, ih hnames]

theorem find_of_readText {source : String} (h : tree.readText path = .ok source) :
    tree.find path = .ok (.file (.text source)) := by
  obtain ⟨node, hfind, hnode⟩ := Except.bind_eq_ok_iff.1 h
  split at hnode
  · cases hnode
  · cases hnode
  · cases hnode
    exact hfind

theorem holds_of_readText {source : String} (h : tree.readText path = .ok source) :
    tree.holds path = true := by
  rw [holds, find_of_readText h]
  rfl

/-- A file that can be read is in a directory. -/
theorem exists_parent?_of_readText {source : String} (h : tree.readText path = .ok source) :
    ∃ parent, path.parent? = some parent := by
  obtain ⟨place, hlocate, hnode⟩ := Except.bind_eq_ok_iff.1 (find_of_readText h)
  cases hparent : path.parent? with
  | some parent => exact ⟨parent, rfl⟩
  | none =>
    obtain ⟨rest, hsegments, hrest⟩ := Path.segments_of_parent? hparent
    obtain ⟨htext, hfollow⟩ := follow_of_locate hlocate
    have habsolute : path.isAbsolute = true := by
      rw [Path.isAbsolute_eq htext, hsegments]
      rfl
    have hroot : tree.follow [] path.segments = .ok [] := by
      rw [hsegments]
      exact follow_of_isNoise rfl (List.forall_mem_cons.2 ⟨rfl, hrest⟩)
    rw [habsolute, if_pos rfl, hroot] at hfollow
    cases hfollow
    cases hnode

end FileTree

end RouteScaffold
