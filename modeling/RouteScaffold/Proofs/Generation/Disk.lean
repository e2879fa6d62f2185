import RouteScaffold.Generation.Disk
import RouteScaffold.Proofs.Files.Write

/-!
# Artifacts on a disk

Artifacts that stay below an empty directory, none of them in the way of another, are all written there, and
nothing else is.
-/

namespace RouteScaffold

/-- The names on the way to the file of an artifact. -/
def Artifact.names (artifact : Artifact) : List String :=
  Path.named artifact.path.segments

/-- Of two artifacts, none stands where the other has a folder, and they are two files. -/
def Artifact.Beside (artifact other : Artifact) : Prop :=
  ¬ artifact.names <+: other.names ∧ ¬ other.names <+: artifact.names

namespace FileTree

variable {before tree later : FileTree} {place : Place} {artifacts : List Artifact} {artifact : Artifact}

/-- The artifacts are below a place, each with its own contents, in the folders that they need. Nothing else
is there, and elsewhere nothing has changed. -/
structure Unpacked (before tree : FileTree) (place : Place) (artifacts : List Artifact) : Prop where
  current : tree.current = before.current
  root : tree.node? place = some .directory
  files : ∀ artifact ∈ artifacts,
    tree.node? (place ++ artifact.names) = some (.file (.text artifact.contents))
  folders : ∀ artifact ∈ artifacts, tree.Paved place artifact.names.dropLast
  nothingElse : ∀ names, names ≠ [] → (∀ artifact ∈ artifacts, ¬ names <+: artifact.names) →
    tree.node? (place ++ names) = none
  outside : ∀ other, ¬ place <+: other → tree.node? other = before.node? other

theorem Unpacked.clear (h : before.Unpacked tree place artifacts) {names : List String}
    (hbeside : ∀ artifact ∈ artifacts, ¬ artifact.names <+: names) : tree.Clear place names := by
  intro front hfront contents hnode
  by_cases hnil : front = []
  · rw [hnil, List.append_nil, h.root] at hnode
    cases hnode
  · by_cases hcover : ∃ artifact ∈ artifacts, front <+: artifact.names
    · obtain ⟨artifact, hartifact, hcover⟩ := hcover
      have hne : front ≠ artifact.names := by
        rintro rfl
        exact hbeside artifact hartifact hfront
      have hnames : artifact.names ≠ [] := by
        intro hnames
        rw [hnames, List.prefix_nil] at hcover
        exact hnil hcover
      have hfolder := h.folders artifact hartifact front
        ((List.prefix_dropLast_iff hnames).2 ⟨hcover, hne⟩)
      rw [hnode] at hfolder
      cases hfolder
    · have hnone : tree.node? (place ++ front) = none := by
        apply h.nothingElse front hnil
        intro artifact hartifact hstarts
        exact hcover ⟨artifact, hartifact, hstarts⟩
      rw [hnode] at hnone
      cases hnone

/-- One more artifact, beside those that are there. -/
theorem Unpacked.gained (h : before.Unpacked tree place artifacts)
    (hbeside : ∀ other ∈ artifacts, other.Beside artifact)
    (hgained : tree.Gained later place artifact.names (.text artifact.contents)) :
    before.Unpacked later place (artifacts ++ [artifact]) := by
  have hothers : ∀ names, ¬ names <+: artifact.names →
      later.node? (place ++ names) = tree.node? (place ++ names) := by
    intro names hstarts
    apply hgained.others
    intro front hfront heq
    rw [List.append_cancel_left heq] at hstarts
    exact hstarts hfront
  constructor
  case current => exact hgained.keeps.current.trans h.current
  case root => exact hgained.keeps.directories place h.root
  case files =>
    intro other hother
    rcases List.mem_append.1 hother with hother | hother
    · rw [hothers other.names (hbeside other hother).1, h.files other hother]
    · rw [List.mem_singleton.1 hother, hgained.file]
  case folders =>
    intro other hother
    rcases List.mem_append.1 hother with hother | hother
    · exact hgained.keeps.paved (h.folders other hother)
    · rw [List.mem_singleton.1 hother]
      exact hgained.folders
  case nothingElse =>
    intro names hne hfree
    rw [hothers names (hfree artifact (List.mem_append_right _ List.mem_cons_self))]
    exact h.nothingElse names hne fun other hother => hfree other (List.mem_append_left _ hother)
  case outside =>
    intro other hother
    have hne : ∀ names, other ≠ place ++ names := by
      rintro names rfl
      exact hother (List.prefix_append _ _)
    rw [hgained.others other fun front _ => hne front, h.outside other hother]

/-- There is nothing yet below a place, and a path leads to it. -/
structure EmptyAt (tree : FileTree) (root : Path) (place : Place) : Prop where
  located : tree.locate root = .ok place
  directory : tree.node? place = some .directory
  empty : ∀ names, names ≠ [] → tree.node? (place ++ names) = none

section EmptyAt

variable {root : Path}

theorem EmptyAt.text_ne_empty (h : tree.EmptyAt root place) : root.text ≠ "" := by
  intro htext
  have hlocated := h.located
  unfold locate locateAlong at hlocated
  simp [htext] at hlocated

theorem EmptyAt.leads (h : tree.EmptyAt root place) : tree.Leads root.trunk place := by
  have hfollow : tree.follow (tree.start root.trunk) root.segments = .ok place := by
    have hlocated := h.located
    unfold locate locateAlong at hlocated
    split at hlocated
    · cases hlocated
    · split at hlocated
      · cases hlocated
      · split at hlocated
        · cases hlocated
        · unfold start
          rwa [Path.head?_trunk h.text_ne_empty, ← Path.isAbsolute_eq h.text_ne_empty]
  rcases root.segments_eq_trunk with hsegments | hsegments
  · rwa [hsegments] at hfollow
  · rw [hsegments, follow_append] at hfollow
    obtain ⟨next, hnext, hlast⟩ := Except.bind_eq_ok_iff.1 hfollow
    -- the slash at the end leads to the same place
    have hsame : next = place := by
      rw [follow_cons] at hlast
      obtain ⟨last, henter, hlast⟩ := Except.bind_eq_ok_iff.1 hlast
      cases hlast
      unfold enter at henter
      split at henter
      · cases henter
      · cases henter
      · exact Except.ok.inj henter
    rwa [hsame] at hnext

theorem EmptyAt.unpacked (h : tree.EmptyAt root place) : tree.Unpacked tree place [] where
  current := rfl
  root := h.directory
  files := by simp
  folders := by simp
  nothingElse names hne _ := h.empty names hne
  outside _ _ := rfl

theorem EmptyAt.keeps (h : before.EmptyAt root place) (hunpacked : before.Unpacked tree place artifacts) :
    before.Keeps tree := by
  refine ⟨hunpacked.current, fun other hother => ?_⟩
  by_cases hbelow : place <+: other
  · obtain ⟨names, rfl⟩ := hbelow
    by_cases hnames : names = []
    · rw [hnames, List.append_nil]
      exact hunpacked.root
    · rw [h.empty names hnames] at hother
      cases hother
  · rw [hunpacked.outside other hbelow, hother]

theorem emptyAt_fresh : fresh.EmptyAt ⟨"."⟩ ["work"] where
  located := by decide +kernel
  directory := by decide +kernel
  empty names hne := by
    simp [node?, fresh, SortedMap.get?_insert, hne]

end EmptyAt

end FileTree

/-- A relative path that leads down, through a folder, to a file. -/
structure Path.LeadsDown (path : Path) (init : List String) (name : String) : Prop where
  relative : path.isAbsolute = false
  segments : path.segments = init ++ [name]
  down : ∀ segment ∈ init ++ [name], segment ≠ ".."
  name : isNoise name = false
  folder : named init ≠ []

theorem Path.LeadsDown.way {root path : Path} {init : List String} {name : String}
    (h : path.LeadsDown init name) (hroot : root.text ≠ "") (hfits : (root.join path).Fits) :
    FileTree.Way (root.join path) root.trunk init name where
  segments := by rw [segments_join h.relative hroot, h.segments]
  first_ne_nil := trunk_ne_nil hroot
  down := h.down
  name := h.name
  fits := hfits

theorem Path.LeadsDown.names_eq {artifact : Artifact} {init : List String} {name : String}
    (h : artifact.path.LeadsDown init name) : artifact.names = named init ++ [name] := by
  unfold Artifact.names
  rw [h.segments, named_append, named_singleton h.name]

section Desk

variable {desk : Desk} {files : FileTree} {action : DiskM Unit}

theorem run_adapt_onFiles (failure : IoFault → Failure) (action : DiskM Unit) (desk : Desk) :
    (ExceptT.adapt failure (Desk.onFiles action)).run.run desk =
      ((action.run.run desk.files).1.mapError failure,
        { desk with files := (action.run.run desk.files).2 }) := by
  rw [ExceptT.run_adapt, StateT.run_map]
  rfl

theorem answer_of_runs {root parent : Path} {artifact : Artifact} {opened : FileTree}
    (hparent : (root.join artifact.path).parent? = some parent)
    (hopen : (FileTree.makeDirs parent).run.run desk.files = (.ok (), opened))
    (hwrite : (FileTree.write (root.join artifact.path) (.text artifact.contents)).run.run opened =
      (.ok (), files)) :
    ∃ later, (diskSink root).answer artifact desk = (.ok (), later) ∧ later.files = files := by
  have hdirs : (ExceptT.adapt (Failure.write parent) (Host.makeDirs parent) :
      ExceptT Failure (StateM Desk) Unit).run.run desk = (.ok (), { desk with files := opened }) := by
    refine (run_adapt_onFiles ..).trans ?_
    rw [hopen]
    rfl
  have hfile : (ExceptT.adapt (Failure.write (root.join artifact.path))
      (Host.writeText (root.join artifact.path) artifact.contents) :
        ExceptT Failure (StateM Desk) Unit).run.run { desk with files := opened } =
          (.ok (), { desk with files }) := by
    refine (run_adapt_onFiles ..).trans ?_
    rw [hwrite]
    rfl
  unfold Sink.answer diskSink
  simp only [hparent]
  rw [run_bind_of_ok hdirs, run_bind_of_ok hfile]
  exact ⟨_, rfl, rfl⟩

theorem answer_diskSink {before : FileTree} {root : Path} {place : Place} {artifacts : List Artifact}
    {artifact : Artifact} (hempty : before.EmptyAt root place)
    (hunpacked : before.Unpacked desk.files place artifacts) {init : List String} {name : String}
    (hdown : artifact.path.LeadsDown init name) (hfits : (root.join artifact.path).Fits)
    (hbeside : ∀ other ∈ artifacts, other.Beside artifact) :
    ∃ later, (diskSink root).answer artifact desk = (.ok (), later) ∧
      before.Unpacked later.files place (artifacts ++ [artifact]) := by
  have hway := hdown.way hempty.text_ne_empty hfits
  obtain ⟨parent, init', name', hparent, hup, hnamed⟩ := hway.exists_parent hdown.folder
  have hleads := (hempty.keeps hunpacked).leads hempty.leads
  have hclear : desk.files.Clear place (Path.named init' ++ [name']) := by
    rw [← hnamed]
    apply hunpacked.clear
    intro other hother hstarts
    apply (hbeside other hother).1
    rw [hdown.names_eq]
    exact hstarts.trans (List.prefix_append _ _)
  obtain ⟨opened, hopen, hopened⟩ := hup.run_makeDirs hleads hunpacked.root hclear
  rw [← hnamed] at hopened
  have hnode : desk.files.node? (place ++ (Path.named init ++ [name])) ≠ some .directory := by
    rw [← hdown.names_eq, hunpacked.nothingElse]
    · simp
    · simp [hdown.names_eq]
    · exact fun other hother => (hbeside other hother).2
  have hgained := hopened.gained hnode (.text artifact.contents)
  rw [← hopened.node?_concat] at hnode
  have hwrite := hway.run_write (hopened.keeps.leads hleads) hopened.paved hnode
    (.text artifact.contents)
  obtain ⟨later, hanswer, hfiles⟩ := answer_of_runs hparent hopen hwrite
  rw [← hfiles, ← hdown.names_eq] at hgained
  exact ⟨later, hanswer, hunpacked.gained hbeside hgained⟩

/-- Artifacts beside each other are taken one after the other. -/
theorem run_persistAll_diskSink {before : FileTree} {root : Path} {place : Place}
    {done artifacts : List Artifact} (hempty : before.EmptyAt root place)
    (hunpacked : before.Unpacked desk.files place done)
    (hdown : ∀ artifact ∈ artifacts, ∃ init name, artifact.path.LeadsDown init name)
    (hfits : ∀ artifact ∈ artifacts, (root.join artifact.path).Fits)
    (hbeside : (done ++ artifacts).Pairwise Artifact.Beside) :
    ∃ later, (persistAll (diskSink root) artifacts : ExceptT Failure (StateM Desk) Unit).run.run desk =
      (.ok (), later) ∧ before.Unpacked later.files place (done ++ artifacts) := by
  induction artifacts generalizing done desk with
  | nil =>
    rw [List.append_nil]
    exact ⟨desk, rfl, hunpacked⟩
  | cons artifact rest ih =>
    obtain ⟨⟨init, name, hartifact⟩, hrest⟩ := List.forall_mem_cons.1 hdown
    obtain ⟨hfit, hfits⟩ := List.forall_mem_cons.1 hfits
    rw [List.append_cons] at hbeside ⊢
    have hdone : ∀ other ∈ done, other.Beside artifact := by
      intro other hother
      have hpair := (List.pairwise_append.1 (List.pairwise_append.1 hbeside).1).2.2
      exact hpair other hother artifact List.mem_cons_self
    obtain ⟨middle, hanswer, hmiddle⟩ := answer_diskSink hempty hunpacked hartifact hfit hdone
    obtain ⟨later, hrun, hlater⟩ := ih hmiddle hrest hfits hbeside
    refine ⟨later, ?_, hlater⟩
    unfold persistAll
    rw [run_bind_of_ok hanswer, hrun]

end Desk

theorem FileTree.Unpacked.readText {before tree : FileTree} {root : Path} {place : Place}
    {artifacts : List Artifact} {artifact : Artifact} (h : before.Unpacked tree place artifacts)
    (hempty : before.EmptyAt root place) (hartifact : artifact ∈ artifacts) {init : List String}
    {name : String} (hdown : artifact.path.LeadsDown init name)
    (hfits : (root.join artifact.path).Fits) :
    tree.readText (root.join artifact.path) = .ok artifact.contents := by
  have hway := hdown.way hempty.text_ne_empty hfits
  have hfile := h.files artifact hartifact
  have hfolders := h.folders artifact hartifact
  rw [hdown.names_eq] at hfile
  rw [hdown.names_eq, List.dropLast_concat] at hfolders
  exact hway.readText_eq ((hempty.keeps h).leads hempty.leads) hfolders hfile

end RouteScaffold
