import RouteScaffold.Files.Tree
import RouteScaffold.Proofs.Except
import RouteScaffold.Proofs.Path.Segments

/-!
# Following paths

A path is followed through directories. On a way down from a place, along segments without `..`, it gets to
the place with the names of these segments, unless a directory is missing.
-/

namespace RouteScaffold

namespace Path

variable {path : Path}

/-- The segments that name something. -/
def named (segments : List String) : List String :=
  segments.filter (!isNoise ·)

@[simp] theorem named_append (segments more : List String) :
    named (segments ++ more) = named segments ++ named more :=
  List.filter_append ..

theorem named_singleton {name : String} (h : isNoise name = false) : named [name] = [name] := by
  simp [named, h]

theorem exists_of_named_ne_nil {segments : List String} (h : named segments ≠ []) :
    ∃ segment ∈ segments, isNoise segment = false := by
  obtain ⟨segment, hsegment⟩ := List.exists_mem_of_ne_nil _ h
  obtain ⟨hmem, hnoise⟩ := List.mem_filter.1 hsegment
  exact ⟨segment, hmem, by simpa using hnoise⟩

theorem exists_dropNoise_eq {segments : List String} (h : named segments ≠ []) :
    ∃ init name more, dropNoise segments = init ++ [name] ∧ isNoise name = false ∧
      segments = init ++ [name] ++ more ∧ named segments = named init ++ [name] := by
  have hne : dropNoise segments ≠ [] := dropNoise_ne_nil (exists_of_named_ne_nil h)
  obtain ⟨init, name, hdrop⟩ := (dropNoise segments).eq_nil_or_concat'.resolve_left hne
  have hname : isNoise name = false := by
    have hlast := List.rdropWhile_last_not isNoise segments hne
    simpa [← dropNoise_eq_rdropWhile, hdrop] using hlast
  have hsegments : segments = init ++ [name] ++ segments.rtakeWhile isNoise := by
    rw [← hdrop]
    exact List.rdropWhile_append_rtakeWhile.symm
  have hmore : named (segments.rtakeWhile isNoise) = [] := by
    refine List.filter_eq_nil_iff.2 fun segment hsegment => ?_
    simpa using List.mem_rtakeWhile_imp hsegment
  refine ⟨init, name, _, hdrop, hname, hsegments, ?_⟩
  conv_lhs => rw [hsegments]
  rw [named_append, named_append, hmore, named_singleton hname, List.append_nil]

theorem isAbsolute_eq (h : path.text ≠ "") :
    path.isAbsolute = (path.segments.head? == some "") := by
  have hchars : path.text.toList ≠ [] := mt String.toList_eq_nil_iff.1 h
  obtain ⟨c, rest, htext⟩ := List.exists_cons_of_ne_nil hchars
  obtain ⟨first, others, hsplit⟩ := List.exists_cons_of_ne_nil (List.splitOn_ne_nil '/' rest)
  unfold isAbsolute segments
  rw [htext, List.splitOn_cons_eq_if_modifyHead, hsplit]
  by_cases hc : c = '/' <;> simp [hc]

end Path

namespace FileTree

variable {tree later : FileTree} {place : Place}

@[simp] theorem node?_nil (tree : FileTree) : tree.node? [] = some .directory := rfl

theorem node?_setNode (hplace : place ≠ []) (other : Place) (node : FileNode) :
    (tree.setNode place node).node? other = if other = place then some node else tree.node? other := by
  by_cases hother : other = []
  · subst hother
    simp [hplace.symm]
  · simp [node?, setNode, SortedMap.get?_insert, hother]

/-- Every directory is still there. -/
structure Keeps (tree later : FileTree) : Prop where
  current : later.current = tree.current
  directories : ∀ place, tree.node? place = some .directory → later.node? place = some .directory

/-- The place that one name leads to. -/
def enter (tree : FileTree) (place : Place) (name : String) : Except IoFault Place :=
  match tree.node? place with
  | none => .error .notFound
  | some (.file _) => .error .notDirectory
  | some .directory =>
    if Path.isNoise name then .ok place
    else if name == ".." then .ok place.dropLast
    else if maxNameBytes < name.utf8ByteSize then .error .nameTooLong
    else .ok (place ++ [name])

theorem follow_cons (tree : FileTree) (place : Place) (name : String) (names : List String) :
    tree.follow place (name :: names) =
      (tree.enter place name).bind fun next => tree.follow next names := by
  unfold enter
  conv_lhs => unfold follow
  cases tree.node? place with
  | none => rfl
  | some node =>
    cases node with
    | file contents => rfl
    | directory =>
      change (if _ then _ else _) = Except.bind (if _ then _ else _) _
      split
      · rfl
      · split
        · rfl
        · split <;> rfl

theorem follow_append (tree : FileTree) (place : Place) (names more : List String) :
    tree.follow place (names ++ more) =
      (tree.follow place names).bind fun next => tree.follow next more := by
  induction names generalizing place with
  | nil => rfl
  | cons name names ih =>
    rw [List.cons_append, follow_cons, follow_cons]
    cases tree.enter place name with
    | error fault => rfl
    | ok next => exact ih next

theorem Keeps.enter (h : tree.Keeps later) {name : String} {next : Place}
    (henter : tree.enter place name = .ok next) : later.enter place name = .ok next := by
  unfold FileTree.enter at henter ⊢
  cases hnode : tree.node? place with
  | none =>
    rw [hnode] at henter
    cases henter
  | some node =>
    cases node with
    | file contents =>
      rw [hnode] at henter
      cases henter
    | directory =>
      rw [h.directories place hnode]
      rwa [hnode] at henter

theorem Keeps.follow (h : tree.Keeps later) {names : List String} {target : Place}
    (hfollow : tree.follow place names = .ok target) : later.follow place names = .ok target := by
  induction names generalizing place with
  | nil => exact hfollow
  | cons name names ih =>
    rw [follow_cons] at hfollow ⊢
    obtain ⟨next, henter, hrest⟩ := Except.bind_eq_ok_iff.1 hfollow
    rw [h.enter henter]
    exact ih hrest

/-- Segments that lead down, by names of the length that a name may have. -/
def Downward (segments : List String) : Prop :=
  ∀ segment ∈ segments, segment ≠ ".." ∧ segment.utf8ByteSize ≤ maxNameBytes

theorem enter_directory (hnode : tree.node? place = some .directory) {segment : String}
    (hdown : segment ≠ ".." ∧ segment.utf8ByteSize ≤ maxNameBytes) :
    tree.enter place segment = .ok (place ++ Path.named [segment]) := by
  unfold enter
  rw [hnode]
  by_cases hnoise : Path.isNoise segment
  · simp [hnoise, Path.named]
  · simp [hnoise, Path.named, hdown.1, Nat.not_lt.2 hdown.2]

/-- What holds at a place and at all places on the way down from it along some names. -/
def Along (tree : FileTree) (P : Option FileNode → Prop) (place : Place) (names : List String) : Prop :=
  ∀ front, front <+: names → P (tree.node? (place ++ front))

section Along

variable {P : Option FileNode → Prop} {names : List String}

theorem Along.start (h : tree.Along P place names) : P (tree.node? place) := by
  have hstart := h [] List.nil_prefix
  rwa [List.append_nil] at hstart

theorem Along.of_prefix {front : List String} (h : tree.Along P place names) (hfront : front <+: names) :
    tree.Along P place front :=
  fun names hnames => h names (hnames.trans hfront)

theorem along_nil_iff : tree.Along P place [] ↔ P (tree.node? place) := by
  simp [Along]

theorem along_cons_iff {name : String} :
    tree.Along P place (name :: names) ↔ P (tree.node? place) ∧ tree.Along P (place ++ [name]) names := by
  constructor
  · intro h
    refine ⟨h.start, fun front hfront => ?_⟩
    have hnode := h (name :: front) (List.cons_prefix_cons.2 ⟨rfl, hfront⟩)
    rwa [List.append_cons] at hnode
  · rintro ⟨hstart, h⟩ front hfront
    rcases List.prefix_cons_iff.1 hfront with rfl | ⟨rest, rfl, hrest⟩
    · rwa [List.append_nil]
    · rw [List.append_cons]
      exact h rest hrest

theorem along_named_cons_iff {segment : String} {segments : List String} :
    tree.Along P place (Path.named (segment :: segments)) ↔
      P (tree.node? place) ∧
        tree.Along P (place ++ Path.named [segment]) (Path.named segments) := by
  by_cases hnoise : Path.isNoise segment
  · simp only [Path.named, List.filter_cons, hnoise, Bool.not_true, Bool.false_eq_true, if_false,
      List.filter_nil, List.append_nil]
    exact ⟨fun h => ⟨h.start, h⟩, And.right⟩
  · simp only [Path.named, List.filter_cons, hnoise, Bool.not_false, if_true, List.filter_nil]
    exact along_cons_iff

end Along

/-- There are directories all along the way. -/
def Paved (tree : FileTree) : Place → List String → Prop :=
  tree.Along (· = some .directory)

/-- There is no file on the way. -/
def Clear (tree : FileTree) : Place → List String → Prop :=
  tree.Along fun node => ∀ contents, node ≠ some (.file contents)

section Down

variable {init : List String} {name : String}

theorem follow_of_paved (hdown : Downward (init ++ [name])) (h : tree.Paved place (Path.named init)) :
    tree.follow place (init ++ [name]) = .ok (place ++ Path.named (init ++ [name])) := by
  induction init generalizing place with
  | nil =>
    have hnode : tree.node? place = some .directory := h.start
    rw [List.nil_append, follow_cons,
      enter_directory hnode (hdown name (List.mem_append_right _ List.mem_cons_self))]
    rfl
  | cons segment init ih =>
    obtain ⟨hnode, hrest⟩ := along_named_cons_iff.1 h
    obtain ⟨hsegment, hdown⟩ := List.forall_mem_cons.1 hdown
    rw [List.cons_append, follow_cons, enter_directory hnode hsegment]
    refine (ih hdown hrest).trans ?_
    rw [List.append_assoc, ← Path.named_append]
    rfl

theorem follow_of_not_paved (hdown : Downward (init ++ [name]))
    (hclear : tree.Clear place (Path.named init)) (h : ¬ tree.Paved place (Path.named init)) :
    tree.follow place (init ++ [name]) = .error .notFound := by
  have hmissing : ∀ place segment, (∀ contents, tree.node? place ≠ some (.file contents)) →
      tree.node? place ≠ some .directory → tree.enter place segment = .error .notFound := by
    intro place segment hfile hdirectory
    unfold enter
    match hnode : tree.node? place with
    | none => rfl
    | some (.file contents) => exact absurd hnode (hfile contents)
    | some .directory => exact absurd hnode hdirectory
  induction init generalizing place with
  | nil =>
    have hnode : tree.node? place ≠ some .directory := by
      intro hnode
      apply h
      exact along_nil_iff.2 hnode
    rw [List.nil_append, follow_cons, hmissing place name hclear.start hnode]
    rfl
  | cons segment init ih =>
    obtain ⟨hfile, hclear⟩ := along_named_cons_iff.1 hclear
    obtain ⟨hsegment, hdown⟩ := List.forall_mem_cons.1 hdown
    rw [List.cons_append, follow_cons]
    by_cases hnode : tree.node? place = some .directory
    · rw [enter_directory hnode hsegment]
      apply ih hdown hclear
      intro hrest
      exact h (along_named_cons_iff.2 ⟨hnode, hrest⟩)
    · rw [hmissing place segment hfile hnode]
      rfl

end Down

end FileTree

end RouteScaffold
