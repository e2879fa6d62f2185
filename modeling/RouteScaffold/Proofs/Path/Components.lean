import Mathlib.Data.List.Basic
import RouteScaffold.Path

/-!
# Joining paths

A relative path adds what it names to the components of the path that it is joined to. One that begins
with a name is found below any root, with the components that it has on its own.
-/

namespace List

theorem notMem_of_mem_splitOn {α : Type} [BEq α] [LawfulBEq α] {c : α} {s part : List α}
    (h : part ∈ s.splitOn c) : c ∉ part := by
  induction s generalizing part with
  | nil =>
    rw [splitOn_nil, mem_singleton] at h
    rw [h]
    exact not_mem_nil
  | cons d rest ih =>
    rw [splitOn_cons_eq_if_modifyHead] at h
    split at h
    case isTrue =>
      rcases mem_cons.1 h with rfl | h
      · exact not_mem_nil
      · exact ih h
    case isFalse hd =>
      have hne : c ≠ d := by
        rintro rfl
        exact hd BEq.rfl
      obtain ⟨first, others, hsplit⟩ := exists_cons_of_ne_nil (splitOn_ne_nil c rest)
      rw [hsplit] at h ih
      rcases mem_cons.1 h with rfl | h
      · rw [mem_cons, not_or]
        exact ⟨hne, ih mem_cons_self⟩
      · exact ih (mem_cons_of_mem first h)

theorem prefix_dropLast_iff {α : Type} {s t : List α} (ht : t ≠ []) :
    s <+: t.dropLast ↔ s <+: t ∧ s ≠ t := by
  obtain ⟨init, last, rfl⟩ := t.eq_nil_or_concat'.resolve_left ht
  rw [dropLast_concat, prefix_concat_iff]
  constructor
  · intro hstarts
    refine ⟨.inr hstarts, ?_⟩
    rintro rfl
    have hlength := hstarts.length_le
    rw [length_append, length_singleton] at hlength
    omega
  · rintro ⟨rfl | hstarts, hne⟩
    · exact absurd rfl hne
    · exact hstarts

end List

namespace RouteScaffold.Path

variable {path base rest : Path}

/-- The components of the segments that name something. -/
def names (path : Path) : List Component :=
  (path.segments.filter (!isNoise ·)).map componentOf

theorem components_eq : path.components = leading path.segments ++ path.names := rfl

theorem segments_ne_nil : path.segments ≠ [] := by
  simp [segments]

theorem notMem_of_mem_segments {segment : String} (h : segment ∈ path.segments) :
    '/' ∉ segment.toList := by
  obtain ⟨part, hpart, rfl⟩ := List.mem_map.1 h
  rw [String.toList_ofList]
  exact List.notMem_of_mem_splitOn hpart

theorem leading_cases (segments : List String) :
    leading segments = [] ∨ leading segments = [.root] ∨ leading segments = [.current] := by
  unfold leading
  split
  · exact .inr (.inl rfl)
  · exact .inr (.inr rfl)
  · exact .inl rfl

/-- No component holds a slash. -/
theorem notMem_of_name_mem {text : String} (h : .name text ∈ path.components) :
    '/' ∉ text.toList := by
  rw [components_eq, List.mem_append] at h
  have hleading : .name text ∉ leading path.segments := by
    rcases leading_cases path.segments with h | h | h <;> simp [h]
  obtain ⟨segment, hsegment, htext⟩ := List.mem_map.1 (h.resolve_left hleading)
  unfold componentOf at htext
  split at htext
  · cases htext
  · cases htext
    exact notMem_of_mem_segments (List.mem_of_mem_filter hsegment)

theorem leading_append {segments more : List String} (hne : segments ≠ []) (hempty : segments ≠ [""]) :
    leading (segments ++ more) = leading segments := by
  match segments with
  | [] => exact absurd rfl hne
  | [first] =>
    have hfirst : first ≠ "" := by
      intro h
      exact hempty (by rw [h])
    by_cases hcurrent : first = "." <;> simp [leading, hfirst, hcurrent]
  | first :: second :: others =>
    by_cases hfirst : first = ""
    · simp [leading, hfirst]
    · by_cases hcurrent : first = "." <;> simp [leading, hfirst, hcurrent]

section Slash

variable {s t : List Char}

theorem segments_ofList_eq_iff : (Path.mk (.ofList s)).segments = [""] ↔ s = [] := by
  constructor
  · intro h
    have hparts : s.splitOn '/' = [[]] := by
      rw [segments, String.toList_ofList, List.map_eq_singleton_iff] at h
      obtain ⟨part, hsplit, hpart⟩ := h
      rw [hsplit, String.ofList_eq_empty_iff.1 hpart]
    have hjoined : ['/'].intercalate (s.splitOn '/') = s := List.intercalate_splitOn '/'
    rw [← hjoined, hparts]
    rfl
  · rintro rfl
    rfl

theorem segments_of_slash (h : path.text.toList = s ++ '/' :: t) :
    path.segments = (Path.mk (.ofList s)).segments ++ (Path.mk (.ofList t)).segments := by
  unfold segments
  rw [h, List.splitOn_append_cons_self, List.map_append, String.toList_ofList, String.toList_ofList]

theorem names_of_slash (h : path.text.toList = s ++ '/' :: t) :
    path.names = (Path.mk (.ofList s)).names ++ (Path.mk (.ofList t)).names := by
  unfold names
  rw [segments_of_slash h, List.filter_append, List.map_append]

/-- What follows a slash inside a path adds its names. -/
theorem components_of_slash (hs : s ≠ []) (h : path.text.toList = s ++ '/' :: t) :
    path.components = (Path.mk (.ofList s)).components ++ (Path.mk (.ofList t)).names := by
  have hleading : leading path.segments = leading (Path.mk (.ofList s)).segments := by
    rw [segments_of_slash h]
    exact leading_append segments_ne_nil (mt segments_ofList_eq_iff.1 hs)
  rw [components_eq, hleading, names_of_slash h, components_eq, List.append_assoc]

/-- What follows a slash in front adds its names to the root. -/
theorem components_of_root (h : path.text.toList = '/' :: t) :
    path.components = .root :: (Path.mk (.ofList t)).names := by
  have hslash : path.text.toList = [] ++ '/' :: t := h
  have hleading : leading path.segments = [.root] := by
    rw [segments_of_slash hslash]
    cases hsegments : (Path.mk (.ofList t)).segments with
    | nil => exact absurd hsegments segments_ne_nil
    | cons first others => rfl
  rw [components_eq, hleading, names_of_slash hslash]
  rfl

end Slash

theorem components_of_text_eq_empty (h : path.text = "") : path.components = [] := by
  obtain ⟨written⟩ := path
  cases h
  rfl

theorem isAbsolute_eq_true_iff : path.isAbsolute = true ↔ ∃ t, path.text.toList = '/' :: t := by
  rw [isAbsolute, beq_iff_eq]
  cases path.text.toList with
  | nil => simp
  | cons c t => simp

theorem components_join (hrelative : rest.isAbsolute = false) (hbase : base.text ≠ "") :
    (base.join rest).components = base.components ++ rest.names := by
  have hchars : base.text.toList ≠ [] := mt String.toList_eq_nil_iff.1 hbase
  have hrest : Path.mk (.ofList rest.text.toList) = rest := by rw [String.ofList_toList]
  unfold join
  rw [hrelative, Bool.false_or, if_neg (by simpa using hbase)]
  split
  case isTrue hlast =>
    rw [beq_iff_eq, List.getLast?_eq_some_iff] at hlast
    obtain ⟨s, hs⟩ := hlast
    have hjoined : (Path.mk (base.text ++ rest.text)).text.toList = s ++ '/' :: rest.text.toList := by
      rw [String.toList_append, hs, List.append_assoc]
      rfl
    -- the slash that the base ends with names nothing
    have hnone : (Path.mk (.ofList [])).names = [] := rfl
    cases s with
    | nil =>
      rw [components_of_root hjoined, components_of_root hs, hrest, hnone]
      rfl
    | cons c s =>
      have hstart : c :: s ≠ [] := List.cons_ne_nil c s
      rw [components_of_slash hstart hjoined, components_of_slash hstart hs, hrest, hnone,
        List.append_nil]
  case isFalse =>
    have hjoined : (Path.mk (base.text ++ "/" ++ rest.text)).text.toList =
        base.text.toList ++ '/' :: rest.text.toList := by
      rw [String.toList_append, String.toList_append, List.append_assoc]
      rfl
    rw [components_of_slash hchars hjoined, hrest, String.ofList_toList]

section Names

variable {text : String}

theorem isAbsolute_of_head (h : path.components.head? = some (.name text)) :
    path.isAbsolute = false := by
  rw [Bool.eq_false_iff, Ne, isAbsolute_eq_true_iff]
  rintro ⟨t, ht⟩
  rw [components_of_root ht] at h
  cases h

theorem names_of_head (h : path.components.head? = some (.name text)) :
    path.names = path.components := by
  have hleading : leading path.segments = [] := by
    rw [components_eq] at h
    rcases leading_cases path.segments with hleading | hleading | hleading
    · exact hleading
    · rw [hleading] at h
      cases h
    · rw [hleading] at h
      cases h
  rw [components_eq, hleading, List.nil_append]

/-- A path that begins with a name keeps its components below any root. -/
theorem components_join_of_head (h : path.components.head? = some (.name text)) (root : Path) :
    (root.join path).components = root.components ++ path.components := by
  by_cases hroot : root.text = ""
  · have hjoin : root.join path = path := by
      unfold join
      rw [hroot]
      simp
    rw [hjoin, components_of_text_eq_empty hroot, List.nil_append]
  · rw [components_join (isAbsolute_of_head h) hroot, names_of_head h]

/-- A text without slashes that is no `.` and no `..` names itself. -/
theorem names_of_notMem (hslash : '/' ∉ text.toList) (hnoise : isNoise text = false)
    (hparent : text ≠ "..") : (Path.mk text).names = [.name text] := by
  have hsegments : (Path.mk text).segments = [text] := by
    unfold segments
    rw [List.splitOn_eq_singleton hslash, List.map_singleton, String.ofList_toList]
  unfold names componentOf
  rw [hsegments]
  simp [hnoise, hparent]

theorem isAbsolute_of_notMem (hslash : '/' ∉ text.toList) : (Path.mk text).isAbsolute = false := by
  rw [Bool.eq_false_iff, Ne, isAbsolute_eq_true_iff]
  rintro ⟨t, ht⟩
  rw [ht] at hslash
  exact hslash List.mem_cons_self

end Names

end RouteScaffold.Path
