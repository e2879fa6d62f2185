import Mathlib.Data.List.DropRight
import RouteScaffold.Proofs.Path.Components

/-!
# Segments of joined paths and of parents

A path that is joined to another adds its segments to those of the other. The parent of a path with a
name at its end loses this name and the noise before it.
-/

namespace RouteScaffold.Path

variable {path base rest : Path}

theorem segments_ofSegments {segments : List String} (hne : segments ≠ [])
    (hslash : ∀ segment ∈ segments, '/' ∉ segment.toList) : (ofSegments segments).segments = segments := by
  have hparts : segments.map String.toList ≠ [] := by simpa using hne
  unfold Path.segments ofSegments
  rw [String.toList_intercalate]
  change ((['/'].intercalate (segments.map String.toList)).splitOn '/').map String.ofList = segments
  rw [List.splitOn_intercalate '/' (by simpa using hslash) hparts, List.map_map]
  simp [Function.comp_def]

theorem ofSegments_segments (path : Path) : ofSegments path.segments = path := by
  have htext : (ofSegments path.segments).text.toList = path.text.toList := by
    unfold ofSegments Path.segments
    rw [String.toList_intercalate, List.map_map]
    simp only [Function.comp_def, String.toList_ofList, List.map_id']
    exact List.intercalate_splitOn '/'
  exact congrArg Path.mk (String.toList_inj.1 htext)

/-- What is left of a path after some of its last segments is the beginning of its text. -/
theorem text_ofSegments_append {segments more : List String} (hne : segments ≠ []) (hmore : more ≠ []) :
    (ofSegments (segments ++ more)).text = (ofSegments segments).text ++ "/" ++ (ofSegments more).text :=
  String.intercalate_append_of_ne_nil hne hmore

/-- The segments of a path without the empty one after a slash at its end. -/
def trunk (path : Path) : List String :=
  if path.text.toList.getLast? == some '/' then path.segments.dropLast else path.segments

theorem segments_of_slash_last {s : List Char} (h : path.text.toList = s ++ ['/']) :
    path.segments = (Path.mk (.ofList s)).segments ++ [""] :=
  segments_of_slash h

theorem segments_eq_trunk (path : Path) :
    path.segments = path.trunk ∨ path.segments = path.trunk ++ [""] := by
  unfold trunk
  split
  case isTrue hlast =>
    rw [beq_iff_eq, List.getLast?_eq_some_iff] at hlast
    obtain ⟨s, hs⟩ := hlast
    rw [segments_of_slash_last hs, List.dropLast_concat]
    exact .inr rfl
  case isFalse => exact .inl rfl

theorem trunk_ne_nil (h : path.text ≠ "") : path.trunk ≠ [] := by
  intro htrunk
  apply h
  rw [← ofSegments_segments path]
  rcases segments_eq_trunk path with hsegments | hsegments <;> rw [hsegments, htrunk] <;> rfl

theorem head?_trunk (h : path.text ≠ "") : path.trunk.head? = path.segments.head? := by
  rcases segments_eq_trunk path with hsegments | hsegments
  · rw [hsegments]
  · rw [hsegments, List.head?_append_of_ne_nil _ (trunk_ne_nil h)]

theorem segments_join (hrelative : rest.isAbsolute = false) (hbase : base.text ≠ "") :
    (base.join rest).segments = base.trunk ++ rest.segments := by
  have hrest : Path.mk (.ofList rest.text.toList) = rest := by rw [String.ofList_toList]
  unfold join trunk
  rw [hrelative, Bool.false_or, if_neg (by simpa using hbase)]
  split
  case isTrue hlast =>
    rw [beq_iff_eq, List.getLast?_eq_some_iff] at hlast
    obtain ⟨s, hs⟩ := hlast
    have hjoined : (Path.mk (base.text ++ rest.text)).text.toList = s ++ '/' :: rest.text.toList := by
      rw [String.toList_append, hs, List.append_assoc]
      rfl
    rw [segments_of_slash hjoined, hrest, segments_of_slash_last hs, List.dropLast_concat]
  case isFalse =>
    have hjoined : (Path.mk (base.text ++ "/" ++ rest.text)).text.toList =
        base.text.toList ++ '/' :: rest.text.toList := by
      rw [String.toList_append, String.toList_append, List.append_assoc]
      rfl
    rw [segments_of_slash hjoined, hrest, String.ofList_toList]

section Noise

variable {segments more : List String} {name : String}

theorem dropNoise_eq_rdropWhile : dropNoise segments = segments.rdropWhile isNoise := rfl

theorem dropNoise_concat (hname : isNoise name = false) :
    dropNoise (segments ++ [name]) = segments ++ [name] :=
  List.rdropWhile_concat_neg isNoise segments name (by simpa using hname)

theorem dropNoise_ne_nil (h : ∃ segment ∈ segments, isNoise segment = false) :
    dropNoise segments ≠ [] := by
  rw [dropNoise_eq_rdropWhile, Ne, List.rdropWhile_eq_nil_iff]
  simpa using h

theorem dropNoise_append (h : ∃ segment ∈ more, isNoise segment = false) :
    dropNoise (segments ++ more) = segments ++ dropNoise more := by
  have hnamed : ¬ (more.reverse.dropWhile isNoise).isEmpty := by
    simpa [List.dropWhile_eq_nil_iff] using h
  unfold dropNoise
  rw [List.reverse_append, List.dropWhile_append, if_neg hnamed, List.reverse_append,
    List.reverse_reverse]

theorem dropLastName_concat (hname : isNoise name = false) :
    dropLastName (segments ++ [name]) = some (dropNoise segments) := by
  unfold dropLastName
  rw [dropNoise_concat hname]
  split
  case h_1 hnil => simp at hnil
  case h_2 => rw [List.dropLast_concat]

end Noise

/-- The parent of a path that ends in a name, and has more names beyond its first segments. -/
theorem parent?_of_segments {first init : List String} {name : String} (hfirst : first ≠ [])
    (hsegments : path.segments = first ++ (init ++ [name])) (hname : isNoise name = false)
    (hinit : ∃ segment ∈ init, isNoise segment = false) :
    path.parent? = some (ofSegments (first ++ dropNoise init)) := by
  obtain ⟨head, others, rfl⟩ := List.exists_cons_of_ne_nil hfirst
  have hdrop : dropLastName (others ++ (init ++ [name])) = some (others ++ dropNoise init) := by
    rw [← List.append_assoc, dropLastName_concat hname, dropNoise_append hinit]
  have hne : others ++ dropNoise init ≠ [] := by
    simp [dropNoise_ne_nil hinit]
  unfold parent?
  rw [hsegments, List.cons_append]
  split
  case h_1 next rest heq =>
    obtain ⟨rfl, hrest⟩ := List.cons.inj heq
    rw [← hrest, hdrop]
    simp [hne]
  case h_2 rest heq =>
    obtain ⟨rfl, rfl⟩ := List.cons.inj heq
    rw [hdrop]
    rfl
  case h_3 =>
    rw [← List.cons_append, ← List.append_assoc, dropLastName_concat hname, dropNoise_append hinit]
    rfl

end RouteScaffold.Path
