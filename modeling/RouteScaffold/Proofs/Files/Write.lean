import RouteScaffold.Proofs.Files.Follow
import RouteScaffold.Proofs.Generation.Run

/-!
# Directories and files made below a place

Below a place, along names without a file on the way, all missing directories can be made; then a file can be
written at the end, and read again.
-/

namespace RouteScaffold

/-- The host takes the path: it has no NUL, and neither the path nor one of its names is too long. -/
structure Path.Fits (path : Path) : Prop where
  valid : ∀ c ∈ path.text.toList, c.toNat ≠ 0
  short : path.text.utf8ByteSize < FileTree.maxPathBytes
  names : ∀ segment ∈ path.segments, segment.utf8ByteSize ≤ FileTree.maxNameBytes

instance (path : Path) : Decidable path.Fits :=
  decidable_of_iff (path.text.toList.all (·.toNat != 0) = true ∧
      path.text.utf8ByteSize < FileTree.maxPathBytes ∧
        ∀ segment ∈ path.segments, segment.utf8ByteSize ≤ FileTree.maxNameBytes)
    ⟨fun ⟨hvalid, hshort, hnames⟩ => ⟨by simpa using hvalid, hshort, hnames⟩,
      fun h => ⟨by simpa using h.valid, h.short, h.names⟩⟩

namespace FileTree

variable {tree later : FileTree} {place : Place} {path : Path} {first init : List String} {name : String}

/-- Where the segments of a path are followed from. -/
def start (tree : FileTree) (first : List String) : Place :=
  if first.head? == some "" then [] else tree.current

def Leads (tree : FileTree) (first : List String) (place : Place) : Prop :=
  tree.follow (tree.start first) first = .ok place

theorem Keeps.leads (h : tree.Keeps later) (hleads : tree.Leads first place) :
    later.Leads first place := by
  unfold Leads start at hleads ⊢
  rw [h.current]
  exact h.follow hleads

/-- A path that begins with some segments, leads down from there and ends in a name. -/
structure Way (path : Path) (first init : List String) (name : String) : Prop where
  segments : path.segments = first ++ (init ++ [name])
  first_ne_nil : first ≠ []
  down : ∀ segment ∈ init ++ [name], segment ≠ ".."
  name : Path.isNoise name = false
  fits : path.Fits

namespace Way

theorem text_ne_empty (h : Way path first init name) : path.text ≠ "" := by
  intro htext
  have hsegments : path.segments = [""] := by
    unfold Path.segments
    rw [htext]
    rfl
  have hlength := congrArg List.length h.segments
  have hfirst := List.length_pos_iff.2 h.first_ne_nil
  simp only [hsegments, List.length_append, List.length_singleton] at hlength
  omega

theorem downward (h : Way path first init name) : Downward (init ++ [name]) := by
  intro segment hsegment
  refine ⟨h.down segment hsegment, h.fits.names segment ?_⟩
  rw [h.segments]
  exact List.mem_append_right _ hsegment

theorem named_concat (h : Way path first init name) :
    Path.named (init ++ [name]) = Path.named init ++ [name] := by
  rw [Path.named_append, Path.named_singleton h.name]

theorem namedSegments_eq (h : Way path first init name) : namedSegments path = path.segments := by
  have hname : name ≠ "" := by
    intro hname
    have hnoise := h.name
    rw [hname] at hnoise
    cases hnoise
  change path.segments.rdropWhile (· == "") = path.segments
  rw [h.segments, ← List.append_assoc]
  exact List.rdropWhile_concat_neg _ _ _ (by simpa using hname)

theorem endsInDirectory_eq (h : Way path first init name) : endsInDirectory path = false := by
  have hparent := h.down name (List.mem_append_right _ List.mem_cons_self)
  unfold endsInDirectory
  rw [h.segments, ← List.append_assoc, List.getLast?_concat]
  simp [h.name, hparent]

theorem locateAlong_eq (h : Way path first init name) (hleads : tree.Leads first place) :
    tree.locateAlong path path.segments = tree.follow place (init ++ [name]) := by
  have hvalid : ¬ path.text.toList.any (·.toNat == 0) = true := by
    simpa using h.fits.valid
  have habsolute : path.isAbsolute = (first.head? == some "") := by
    rw [Path.isAbsolute_eq h.text_ne_empty, h.segments,
      List.head?_append_of_ne_nil _ h.first_ne_nil]
  unfold Leads start at hleads
  unfold locateAlong
  rw [if_neg hvalid, if_neg (by simpa using h.text_ne_empty), if_neg (Nat.not_le.2 h.fits.short),
    habsolute, h.segments, follow_append, hleads]
  rfl

/-- The parent goes the same way, up to the name before. -/
theorem exists_parent (h : Way path first init name) (hinit : Path.named init ≠ []) :
    ∃ parent init' name', path.parent? = some parent ∧ Way parent first init' name' ∧
      Path.named init = Path.named init' ++ [name'] := by
  obtain ⟨init', name', more, hdrop, hname, hsplit, hnamed⟩ := Path.exists_dropNoise_eq hinit
  have hparent := Path.parent?_of_segments h.first_ne_nil h.segments h.name
    (Path.exists_of_named_ne_nil hinit)
  rw [hdrop] at hparent
  have hall : path.segments = (first ++ (init' ++ [name'])) ++ (more ++ [name]) := by
    rw [h.segments, hsplit]
    simp only [List.append_assoc]
  have hsegments : (Path.ofSegments (first ++ (init' ++ [name']))).segments =
      first ++ (init' ++ [name']) := by
    refine Path.segments_ofSegments (by simp) fun segment hsegment => ?_
    have hmem : segment ∈ path.segments := by
      rw [hall]
      exact List.mem_append_left _ hsegment
    exact Path.notMem_of_mem_segments hmem
  -- the text of the parent is the beginning of the text of the path
  have htext : path.text = (Path.ofSegments (first ++ (init' ++ [name']))).text ++ "/" ++
      (Path.ofSegments (more ++ [name])).text := by
    rw [← Path.text_ofSegments_append (by simp) (by simp), ← hall, Path.ofSegments_segments]
  refine ⟨_, init', name', hparent, ⟨hsegments, h.first_ne_nil, ?_, hname, ?_, ?_, ?_⟩, hnamed⟩
  · intro segment hsegment
    apply h.down segment
    rw [hsplit]
    simp only [List.append_assoc, List.mem_append] at hsegment ⊢
    tauto
  · intro c hc
    apply h.fits.valid c
    rw [htext, String.toList_append, String.toList_append]
    exact List.mem_append_left _ (List.mem_append_left _ hc)
  · have hshort := h.fits.short
    rw [htext, String.utf8ByteSize_append, String.utf8ByteSize_append] at hshort
    omega
  · intro segment hsegment
    apply h.fits.names segment
    rw [hall]
    rw [hsegments] at hsegment
    exact List.mem_append_left _ hsegment

end Way

/-! ### Directories -/

/-- All directories along some names are there, and nothing else has changed. -/
structure Opened (tree later : FileTree) (place : Place) (names : List String) : Prop where
  current : later.current = tree.current
  paved : later.Paved place names
  others : ∀ other, (∀ front, front <+: names → other ≠ place ++ front) →
    later.node? other = tree.node? other

theorem Opened.keeps {names : List String} (h : tree.Opened later place names) : tree.Keeps later := by
  refine ⟨h.current, fun other hother => ?_⟩
  by_cases hon : ∃ front, front <+: names ∧ other = place ++ front
  · obtain ⟨front, hfront, rfl⟩ := hon
    exact h.paved front hfront
  · rw [h.others other fun front hfront heq => hon ⟨front, hfront, heq⟩, hother]

theorem Opened.trans {names more : List String} {last : FileTree} (h : tree.Opened later place names)
    (hlast : later.Opened last place more) (hstarts : names <+: more) : tree.Opened last place more where
  current := hlast.current.trans h.current
  paved := hlast.paved
  others other hother := by
    rw [hlast.others other hother]
    exact h.others other fun front hfront => hother front (hfront.trans hstarts)

theorem Keeps.paved (h : tree.Keeps later) {names : List String} (hpaved : tree.Paved place names) :
    later.Paved place names :=
  fun front hfront => h.directories _ (hpaved front hfront)

theorem append_ne_concat {names front : List String} (hfront : front <+: names) :
    place ++ front ≠ place ++ (names ++ [name]) := by
  intro heq
  have hlength := hfront.length_le
  rw [List.append_cancel_left heq, List.length_append, List.length_singleton] at hlength
  omega

theorem Opened.node?_concat {names : List String} (h : tree.Opened later place names) :
    later.node? (place ++ (names ++ [name])) = tree.node? (place ++ (names ++ [name])) := by
  apply h.others
  exact fun front hfront => (append_ne_concat hfront).symm

section Actions

variable {fault : IoFault} {action : DiskM Unit} {handle : IoFault → DiskM Unit}

theorem run_tryCatch_of_ok (h : action.run.run tree = (.ok (), later)) :
    (tryCatch action handle).run.run tree = (.ok (), later) := by
  rw [ExceptT.run_tryCatch, StateT.run_bind, h]
  rfl

theorem run_tryCatch_of_error (h : action.run.run tree = (.error fault, later)) :
    (tryCatch action handle).run.run tree = (handle fault).run.run later := by
  rw [ExceptT.run_tryCatch, StateT.run_bind, h]
  rfl

theorem run_get (tree : FileTree) : (get : DiskM FileTree).run.run tree = (.ok tree, tree) := rfl

theorem run_mk (result : Except IoFault Place) (tree : FileTree) :
    (ExceptT.mk (pure result) : DiskM Place).run.run tree = (result, tree) := rfl

end Actions

theorem run_makeDir_of_error {fault : IoFault}
    (h : tree.locateAlong path (namedSegments path) = .error fault) :
    (makeDir path).run.run tree = (.error fault, tree) := by
  unfold makeDir
  rw [run_bind_of_ok (run_get tree), h, run_bind_of_error (run_mk ..)]

theorem run_makeDir_of_ok (h : tree.locateAlong path (namedSegments path) = .ok place) :
    (makeDir path).run.run tree =
      if (tree.node? place).isSome then (.error .alreadyExists, tree)
      else (.ok (), tree.setNode place .directory) := by
  unfold makeDir
  rw [run_bind_of_ok (run_get tree), h, run_bind_of_ok (run_mk ..)]
  split <;> rfl

theorem Paved.opened {names : List String} (h : tree.Paved place names)
    (hcurrent : later.current = tree.current)
    (hnode : ∀ other, later.node? other =
      if other = place ++ (names ++ [name]) then some .directory else tree.node? other) :
    tree.Opened later place (names ++ [name]) where
  current := hcurrent
  paved front hfront := by
    rw [hnode]
    rcases List.prefix_concat_iff.1 hfront with rfl | hfront
    · rw [if_pos rfl]
    · split
      · rfl
      · exact h front hfront
  others other hother := by
    rw [hnode, if_neg (hother _ (List.prefix_refl _))]

theorem find_of_locate {node : FileNode} (hlocate : tree.locateAlong path path.segments = .ok place)
    (hnode : tree.node? place = some node) : tree.find path = .ok node := by
  unfold find locate
  rw [hlocate, Except.ok_bind, hnode]

/-- There is a new file below a place, in the folders that it needs, and nothing else has changed. -/
structure Gained (tree later : FileTree) (place : Place) (names : List String)
    (contents : FileContents) : Prop where
  keeps : tree.Keeps later
  file : later.node? (place ++ names) = some (.file contents)
  folders : later.Paved place names.dropLast
  others : ∀ other, (∀ front, front <+: names → other ≠ place ++ front) →
    later.node? other = tree.node? other

theorem Opened.gained {names : List String} (h : tree.Opened later place names)
    (hnode : tree.node? (place ++ (names ++ [name])) ≠ some .directory) (contents : FileContents) :
    tree.Gained (later.setNode (place ++ (names ++ [name])) (.file contents)) place
      (names ++ [name]) contents := by
  have hset : ∀ other, other ≠ place ++ (names ++ [name]) →
      (later.setNode (place ++ (names ++ [name])) (.file contents)).node? other =
        later.node? other := by
    intro other hother
    rw [node?_setNode (by simp), if_neg hother]
  have hkeeps : tree.Keeps (later.setNode (place ++ (names ++ [name])) (.file contents)) := by
    refine ⟨h.current, fun other hother => ?_⟩
    rw [hset, h.keeps.directories other hother]
    rintro rfl
    exact hnode hother
  constructor
  case keeps => exact hkeeps
  case file => rw [node?_setNode (by simp), if_pos rfl]
  case folders =>
    rw [List.dropLast_concat]
    intro front hfront
    rw [hset _ (append_ne_concat hfront), h.paved front hfront]
  case others =>
    intro other hother
    rw [hset other (hother _ (List.prefix_refl _))]
    exact h.others other fun front hfront => hother front (hfront.trans (List.prefix_append _ _))

namespace Way

theorem locateAlong_of_paved (h : Way path first init name) (hleads : tree.Leads first place)
    (hpaved : tree.Paved place (Path.named init)) :
    tree.locateAlong path path.segments = .ok (place ++ (Path.named init ++ [name])) := by
  rw [h.locateAlong_eq hleads, follow_of_paved h.downward hpaved, h.named_concat]

theorem run_ensureDir_of_paved (h : Way path first init name) (hleads : tree.Leads first place)
    (hpaved : tree.Paved place (Path.named init))
    (hfile : ∀ contents, tree.node? (place ++ (Path.named init ++ [name])) ≠ some (.file contents)) :
    ∃ later, (ensureDir path).run.run tree = (.ok (), later) ∧
      tree.Opened later place (Path.named init ++ [name]) := by
  have hlocate := h.locateAlong_of_paved hleads hpaved
  have hmake := hlocate
  rw [← h.namedSegments_eq] at hmake
  replace hmake := run_makeDir_of_ok hmake
  unfold ensureDir
  match hnode : tree.node? (place ++ (Path.named init ++ [name])) with
  | none =>
    rw [hnode, if_neg (by simp)] at hmake
    refine ⟨_, run_tryCatch_of_ok hmake, hpaved.opened rfl fun other => ?_⟩
    exact node?_setNode (by simp) other .directory
  | some .directory =>
    rw [hnode, if_pos (by simp)] at hmake
    have hthere : tree.hasDirectory path = true := by
      unfold hasDirectory
      rw [find_of_locate hlocate hnode]
    refine ⟨tree, ?_, hpaved.opened rfl fun other => ?_⟩
    · rw [run_tryCatch_of_error hmake, run_bind_of_ok (run_get tree), hthere]
      rfl
    · split
      case isTrue heq => rw [heq, hnode]
      case isFalse => rfl
  | some (.file contents) => exact absurd hnode (hfile contents)

theorem run_ensureDir_of_not_paved (h : Way path first init name) (hleads : tree.Leads first place)
    (hclear : tree.Clear place (Path.named init)) (hpaved : ¬ tree.Paved place (Path.named init)) :
    (ensureDir path).run.run tree = (.error .notFound, tree) := by
  have hlocate : tree.locateAlong path path.segments = .error .notFound := by
    rw [h.locateAlong_eq hleads, follow_of_not_paved h.downward hclear hpaved]
  have hmake := hlocate
  rw [← h.namedSegments_eq] at hmake
  have hthere : tree.hasDirectory path = false := by
    unfold hasDirectory find locate
    rw [hlocate]
    rfl
  unfold ensureDir
  rw [run_tryCatch_of_error (run_makeDir_of_error hmake), run_bind_of_ok (run_get tree), hthere]
  rfl

/-- Missing directories are made from the top, since each can be made once the one above is there. -/
theorem run_makeDirsWithin {fuel : Nat} (h : Way path first init name) (hleads : tree.Leads first place)
    (hplace : tree.node? place = some .directory)
    (hclear : tree.Clear place (Path.named init ++ [name]))
    (hfuel : (Path.named init).length < fuel) :
    ∃ later, (makeDirsWithin fuel path).run.run tree = (.ok (), later) ∧
      tree.Opened later place (Path.named init ++ [name]) := by
  induction fuel generalizing path init name with
  | zero => omega
  | succ fuel ih =>
    have hfront : Path.named init <+: Path.named init ++ [name] := List.prefix_append _ _
    unfold makeDirsWithin
    rw [if_neg (by simpa using h.text_ne_empty)]
    by_cases hpaved : tree.Paved place (Path.named init)
    · obtain ⟨later, hrun, hopened⟩ :=
        h.run_ensureDir_of_paved hleads hpaved (hclear _ (List.prefix_refl _))
      exact ⟨later, run_tryCatch_of_ok hrun, hopened⟩
    · have hinit : Path.named init ≠ [] := by
        intro hnil
        apply hpaved
        rw [hnil]
        exact along_nil_iff.2 hplace
      obtain ⟨parent, init', name', hparent, hway, hnamed⟩ := h.exists_parent hinit
      have habove : tree.Clear place (Path.named init' ++ [name']) := by
        rw [← hnamed]
        exact hclear.of_prefix hfront
      have hlength : (Path.named init').length < fuel := by
        rw [hnamed, List.length_append, List.length_singleton] at hfuel
        omega
      obtain ⟨middle, hmiddle, hopened⟩ := ih hway habove hlength
      rw [← hnamed] at hopened
      have hfile : ∀ contents,
          middle.node? (place ++ (Path.named init ++ [name])) ≠ some (.file contents) := by
        rw [hopened.node?_concat]
        exact hclear _ (List.prefix_refl _)
      obtain ⟨later, hlater, hlast⟩ :=
        h.run_ensureDir_of_paved (hopened.keeps.leads hleads) hopened.paved hfile
      refine ⟨later, ?_, hopened.trans hlast hfront⟩
      rw [run_tryCatch_of_error (h.run_ensureDir_of_not_paved hleads (hclear.of_prefix hfront) hpaved),
        hparent]
      exact (run_bind_of_ok hmiddle).trans hlater

theorem run_makeDirs (h : Way path first init name) (hleads : tree.Leads first place)
    (hplace : tree.node? place = some .directory)
    (hclear : tree.Clear place (Path.named init ++ [name])) :
    ∃ later, (makeDirs path).run.run tree = (.ok (), later) ∧
      tree.Opened later place (Path.named init ++ [name]) := by
  have hnamed : (Path.named init).length ≤ init.length := List.length_filter_le _ init
  refine h.run_makeDirsWithin hleads hplace hclear ?_
  rw [h.segments, List.length_append, List.length_append]
  omega

/-! ### Files -/

theorem run_write (h : Way path first init name) (hleads : tree.Leads first place)
    (hpaved : tree.Paved place (Path.named init))
    (hnode : tree.node? (place ++ (Path.named init ++ [name])) ≠ some .directory)
    (contents : FileContents) :
    (write path contents).run.run tree =
      (.ok (), tree.setNode (place ++ (Path.named init ++ [name])) (.file contents)) := by
  have hlocate := h.locateAlong_of_paved hleads hpaved
  rw [← h.namedSegments_eq] at hlocate
  unfold write
  rw [run_bind_of_ok (run_get tree), hlocate, run_bind_of_ok (run_mk ..), h.endsInDirectory_eq,
    Bool.false_or, if_neg (by simpa using hnode)]
  rfl

theorem readText_eq (h : Way path first init name) (hleads : tree.Leads first place)
    (hpaved : tree.Paved place (Path.named init)) {text : String}
    (hnode : tree.node? (place ++ (Path.named init ++ [name])) = some (.file (.text text))) :
    tree.readText path = .ok text := by
  unfold readText
  rw [find_of_locate (h.locateAlong_of_paved hleads hpaved) hnode, Except.ok_bind]

end Way

end FileTree

end RouteScaffold
