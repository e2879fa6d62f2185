import RouteScaffold.Proofs.Path.Components

/-!
# Spellings of one path

Of a spelling count its first slash, a `.` that it begins with, and the segments that are neither empty nor `.`;
a `..` is such a segment. Two spellings that agree in this are the same path, and no others are.
-/

namespace RouteScaffold.Path

variable {path p q : Path}

theorem componentOf_injective : Function.Injective componentOf := by
  intro segment other h
  unfold componentOf at h
  split at h <;> split at h <;> simp_all

theorem filter_rank_leading (segments : List String) :
    (leading segments).filter (·.rank < 2) = leading segments := by
  rcases leading_cases segments with h | h | h <;> rw [h] <;> rfl

theorem filter_rank_names (path : Path) : path.names.filter (·.rank < 2) = [] := by
  rw [List.filter_eq_nil_iff]
  intro component hcomponent
  obtain ⟨segment, -, rfl⟩ := List.mem_map.1 hcomponent
  unfold componentOf
  split <;> simp [Component.rank]

/-- Where the names begin can be told from the components. -/
theorem same_iff_leading :
    p.Same q ↔ leading p.segments = leading q.segments ∧ p.names = q.names := by
  constructor
  · intro h
    have hleading : leading p.segments = leading q.segments := by
      have hfilter := congrArg (List.filter (·.rank < 2)) h
      simpa only [components_eq, List.filter_append, filter_rank_leading, filter_rank_names,
        List.append_nil] using hfilter
    refine ⟨hleading, ?_⟩
    rw [Same, components_eq, components_eq, hleading] at h
    exact List.append_cancel_left h
  · rintro ⟨hleading, hnames⟩
    rw [Same, components_eq, components_eq, hleading, hnames]

theorem leading_cons {first : String} (hfirst : first ≠ "") (others : List String) :
    leading (first :: others) = if first = "." then [.current] else [] := by
  unfold leading
  split <;> simp_all

theorem leading_eq_ite (path : Path) :
    leading path.segments =
      if path.isAbsolute then [.root]
      else if path.segments.head? = some "." then [.current] else [] := by
  cases htext : path.text.toList with
  | nil => simp [leading, isAbsolute, segments, htext]
  | cons c t =>
    by_cases hc : c = '/'
    · subst hc
      have hslash : path.text.toList = [] ++ '/' :: t := htext
      have hsegments : path.segments = "" :: (Path.mk (.ofList t)).segments := segments_of_slash hslash
      have hne : (Path.mk (.ofList t)).segments ≠ [] := segments_ne_nil
      obtain ⟨first, others, hmore⟩ := List.exists_cons_of_ne_nil hne
      rw [hsegments, hmore, leading]
      simp [isAbsolute, htext]
    · -- The first segment begins with `c`, so it is not the empty one before a slash.
      obtain ⟨first, others, hsplit⟩ := List.exists_cons_of_ne_nil (List.splitOn_ne_nil '/' t)
      have hsegments : path.segments = .ofList (c :: first) :: others.map .ofList := by
        rw [segments, htext, List.splitOn_cons_eq_if_modifyHead, if_neg (by simpa using hc), hsplit]
        rfl
      have hfirst : String.ofList (c :: first) ≠ "" := by
        rw [Ne, String.ofList_eq_empty_iff]
        exact List.cons_ne_nil c first
      have hrelative : path.isAbsolute = false := by simp [isAbsolute, htext, hc]
      rw [hsegments, leading_cons hfirst, hrelative, if_neg Bool.false_ne_true, List.head?_cons]
      simp only [Option.some_inj]

theorem head?_segments_of_isAbsolute (h : path.isAbsolute = true) : path.segments.head? = some "" := by
  obtain ⟨t, ht⟩ := isAbsolute_eq_true_iff.1 h
  rw [segments_of_slash (s := []) ht]
  rfl

theorem leading_eq_iff :
    leading p.segments = leading q.segments ↔
      p.isAbsolute = q.isAbsolute ∧ (p.segments.head? = some "." ↔ q.segments.head? = some ".") := by
  have hroot : ∀ path : Path, path.isAbsolute = true → path.segments.head? ≠ some "." := by
    intro path habsolute
    rw [head?_segments_of_isAbsolute habsolute]
    decide
  rw [leading_eq_ite p, leading_eq_ite q]
  cases hp : p.isAbsolute <;> cases hq : q.isAbsolute
  · by_cases hfirst : p.segments.head? = some "." <;> by_cases hother : q.segments.head? = some "." <;>
      simp [hfirst, hother]
  · by_cases hfirst : p.segments.head? = some "." <;> simp [hfirst]
  · by_cases hother : q.segments.head? = some "." <;> simp [hother]
  · simp [hroot p hp, hroot q hq]

/-- Slashes in a row or at the end and inner `.` segments do not count; all else does. -/
theorem same_iff :
    p.Same q ↔ p.isAbsolute = q.isAbsolute ∧
      (p.segments.head? = some "." ↔ q.segments.head? = some ".") ∧
        p.segments.filter (!isNoise ·) = q.segments.filter (!isNoise ·) := by
  rw [same_iff_leading, leading_eq_iff, and_assoc, names, names,
    (List.map_injective_iff.2 componentOf_injective).eq_iff]

end RouteScaffold.Path
