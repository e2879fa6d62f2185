import RouteScaffold.Proofs.Files.Steady
import RouteScaffold.Proofs.Generation.Disk

/-!
# Artifacts that no disk takes

A disk that has taken an artifact has its file and the folders above it, and keeps both. So it does not take all
artifacts when one stands where another needs a folder, in whatever order they come.
-/

namespace RouteScaffold

section Desk

variable {desk later : Desk} {root : Path} {place : Place} {artifact : Artifact}

theorem exists_of_adapt_onFiles {failure : IoFault → Failure} {action : DiskM Unit}
    (h : (ExceptT.adapt failure (Desk.onFiles action)).run.run desk = (.ok (), later)) :
    ∃ files, action.run.run desk.files = (.ok (), files) ∧ later = { desk with files } := by
  rw [run_adapt_onFiles] at h
  rcases hrun : action.run.run desk.files with ⟨fault | _, files⟩
  · rw [hrun] at h
    cases h
  · rw [hrun] at h
    cases h
    exact ⟨files, rfl, rfl⟩

/-- The last that a disk does for an artifact is to write its file. -/
theorem exists_of_answer_ok (h : (diskSink root).answer artifact desk = (.ok (), later)) :
    ∃ middle, desk.files.Stays middle ∧
      (FileTree.write (root.join artifact.path) (.text artifact.contents)).run.run middle =
        (.ok (), later.files) := by
  have hlast : ∀ {middle : Desk} {event : LogEvent},
      (do ExceptT.adapt (Failure.write (root.join artifact.path))
            (Host.writeText (root.join artifact.path) artifact.contents)
          ExceptT.lift (Host.log event) : ExceptT Failure (StateM Desk) Unit).run.run middle =
        (.ok (), later) →
      (FileTree.write (root.join artifact.path) (.text artifact.contents)).run.run middle.files =
        (.ok (), later.files) := by
    intro middle event hrest
    obtain ⟨_, written, hwrite, hlog⟩ := exists_of_run_bind hrest
    obtain ⟨files, hrun, rfl⟩ := exists_of_adapt_onFiles hwrite
    cases hlog
    exact hrun
  unfold Sink.answer diskSink at h
  cases hparent : (root.join artifact.path).parent? with
  | none =>
    simp only [hparent] at h
    exact ⟨desk.files, .refl _, hlast h⟩
  | some parent =>
    simp only [hparent] at h
    obtain ⟨_, middle, hdirs, hrest⟩ := exists_of_run_bind h
    obtain ⟨files, hrun, rfl⟩ := exists_of_adapt_onFiles hdirs
    have hstays := FileTree.steady_makeDirs parent desk.files
    rw [hrun] at hstays
    have hwrite := hlast hrest
    exact ⟨files, hstays, hwrite⟩

/-- An artifact is on the disk: its file, and the folders above it. -/
structure FileTree.Bears (tree : FileTree) (place : Place) (artifact : Artifact) : Prop where
  file : ∃ contents, tree.node? (place ++ artifact.names) = some (.file contents)
  folders : tree.Paved place artifact.names.dropLast

theorem FileTree.Bears.stays {tree later : FileTree} (h : tree.Bears place artifact)
    (hstays : tree.Stays later) : later.Bears place artifact := by
  obtain ⟨contents, hfile⟩ := h.file
  exact ⟨hstays.files _ contents hfile, hstays.paved h.folders⟩

theorem bears_of_answer_ok (hroot : root.text ≠ "") (hleads : desk.files.Leads root.trunk place)
    {init : List String} {name : String} (hdown : artifact.path.LeadsDown init name)
    (hfits : (root.join artifact.path).Fits)
    (h : (diskSink root).answer artifact desk = (.ok (), later)) :
    desk.files.Stays later.files ∧ later.files.Bears place artifact := by
  have hway := hdown.way hroot hfits
  obtain ⟨middle, hstays, hwrite⟩ := exists_of_answer_ok h
  have hwritten := FileTree.steady_write (root.join artifact.path) (.text artifact.contents) middle
  rw [hwrite] at hwritten
  obtain ⟨hfile, hpaved⟩ := hway.of_run_write (hstays.leads hleads) hwrite
  rw [← hdown.names_eq] at hfile
  refine ⟨hstays.trans hwritten, ⟨_, hfile⟩, ?_⟩
  rw [hdown.names_eq, List.dropLast_concat]
  exact hpaved

theorem Sink.Stores.bears {artifacts : List Artifact} (h : (diskSink root).Stores desk artifacts later)
    (hroot : root.text ≠ "") (hleads : desk.files.Leads root.trunk place)
    (hdown : ∀ artifact ∈ artifacts, ∃ init name, artifact.path.LeadsDown init name)
    (hfits : ∀ artifact ∈ artifacts, (root.join artifact.path).Fits) :
    desk.files.Stays later.files ∧ ∀ artifact ∈ artifacts, later.files.Bears place artifact := by
  induction h with
  | nil => exact ⟨.refl _, by simp⟩
  | cons taken later ih =>
    obtain ⟨⟨init, name, hartifact⟩, hrest⟩ := List.forall_mem_cons.1 hdown
    obtain ⟨hfit, hfits⟩ := List.forall_mem_cons.1 hfits
    obtain ⟨hstays, hbears⟩ := bears_of_answer_ok hroot hleads hartifact hfit taken
    obtain ⟨hlast, hall⟩ := ih (hstays.leads hleads) hrest hfits
    exact ⟨hstays.trans hlast, List.forall_mem_cons.2 ⟨hbears.stays hlast, hall⟩⟩

/-- No file can be a folder, too. -/
theorem FileTree.Bears.not_above {tree : FileTree} {other : Artifact} (h : tree.Bears place artifact)
    (hother : tree.Bears place other) : ¬ artifact.names <+: other.names.dropLast := by
  intro hstarts
  obtain ⟨contents, hfile⟩ := h.file
  have hfolder := hother.folders artifact.names hstarts
  rw [hfile] at hfolder
  cases hfolder

end Desk

end RouteScaffold
