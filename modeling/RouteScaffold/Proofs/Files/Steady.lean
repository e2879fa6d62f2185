import RouteScaffold.Proofs.Files.Write

/-!
# What no action on files undoes

Making directories and writing files may fail half-way, but either way a directory stays a directory, and a
file stays a file.
-/

namespace RouteScaffold

namespace FileTree

variable {tree later : FileTree} {place : Place} {path : Path} {α β : Type}

/-- Directories are still directories, and files are still files, though their contents may be new. -/
structure Stays (tree later : FileTree) : Prop extends tree.Keeps later where
  files : ∀ place contents, tree.node? place = some (.file contents) →
    ∃ contents, later.node? place = some (.file contents)

theorem Stays.refl (tree : FileTree) : tree.Stays tree where
  current := rfl
  directories _ h := h
  files _ contents h := ⟨contents, h⟩

theorem Stays.trans {last : FileTree} (h : tree.Stays later) (hlast : later.Stays last) :
    tree.Stays last where
  current := hlast.current.trans h.current
  directories place hplace := hlast.directories place (h.directories place hplace)
  files place contents hplace := by
    obtain ⟨contents, hlater⟩ := h.files place contents hplace
    exact hlast.files place contents hlater

theorem stays_setNode_of_none (h : tree.node? place = none) (node : FileNode) :
    tree.Stays (tree.setNode place node) := by
  have hplace : place ≠ [] := by
    rintro rfl
    cases h
  have hother : ∀ other node', tree.node? other = some node' →
      (tree.setNode place node).node? other = some node' := by
    intro other node' hnode
    rw [node?_setNode hplace, if_neg, hnode]
    rintro rfl
    rw [h] at hnode
    cases hnode
  exact ⟨⟨rfl, fun other => hother other _⟩, fun other contents hnode => ⟨contents, hother other _ hnode⟩⟩

theorem stays_setNode_file (h : tree.node? place ≠ some .directory) (contents : FileContents) :
    tree.Stays (tree.setNode place (.file contents)) := by
  have hplace : place ≠ [] := by
    rintro rfl
    exact h rfl
  refine ⟨⟨rfl, fun other hnode => ?_⟩, fun other old hnode => ?_⟩
  · rw [node?_setNode hplace, if_neg, hnode]
    rintro rfl
    exact h hnode
  · rw [node?_setNode hplace]
    split
    · exact ⟨contents, rfl⟩
    · exact ⟨old, hnode⟩

/-- Whether it fails or not, the action leaves directories and files in their places. -/
def Steady (action : DiskM α) : Prop :=
  ∀ tree : FileTree, tree.Stays (action.run.run tree).2

theorem Steady.tryCatch {action : DiskM Unit} {handle : IoFault → DiskM Unit} (h : Steady action)
    (hhandle : ∀ fault, Steady (handle fault)) : Steady (tryCatch action handle) := by
  intro tree
  have haction := h tree
  rcases hrun : action.run.run tree with ⟨fault | _, later⟩
  · rw [hrun] at haction
    rw [run_tryCatch_of_error hrun]
    exact haction.trans (hhandle fault later)
  · rw [hrun] at haction
    rw [run_tryCatch_of_ok hrun]
    exact haction

theorem Steady.bind {action : DiskM α} {next : α → DiskM β} (h : Steady action)
    (hnext : ∀ a, Steady (next a)) : Steady (action >>= next) := by
  intro tree
  have haction := h tree
  rcases hrun : action.run.run tree with ⟨fault | a, later⟩
  · rw [hrun] at haction
    rw [run_bind_of_error hrun]
    exact haction
  · rw [hrun] at haction
    rw [run_bind_of_ok hrun]
    exact haction.trans (hnext a later)

theorem steady_makeDir (path : Path) : Steady (makeDir path) := by
  intro tree
  cases hlocate : tree.locateAlong path (namedSegments path) with
  | error fault =>
    rw [run_makeDir_of_error hlocate]
    exact .refl tree
  | ok place =>
    rw [run_makeDir_of_ok hlocate]
    split
    case isTrue => exact .refl tree
    case isFalse hnode => exact stays_setNode_of_none (by simpa using hnode) .directory

theorem steady_ensureDir (path : Path) : Steady (ensureDir path) := by
  refine (steady_makeDir path).tryCatch fun fault tree => ?_
  rw [run_bind_of_ok (run_get tree)]
  split <;> exact .refl tree

theorem steady_makeDirsWithin (fuel : Nat) (path : Path) : Steady (makeDirsWithin fuel path) := by
  induction fuel generalizing path with
  | zero => exact Stays.refl
  | succ fuel ih =>
    unfold makeDirsWithin
    split
    · exact Stays.refl
    · refine (steady_ensureDir path).tryCatch fun fault => ?_
      split
      · exact (ih _).bind fun _ => steady_ensureDir path
      · exact Stays.refl

theorem steady_makeDirs (path : Path) : Steady (makeDirs path) :=
  steady_makeDirsWithin _ path

theorem run_write_cases (path : Path) (contents : FileContents) (tree : FileTree) :
    (∃ fault, (write path contents).run.run tree = (.error fault, tree)) ∨
      ∃ place, tree.locateAlong path (namedSegments path) = .ok place ∧
        tree.node? place ≠ some .directory ∧
          (write path contents).run.run tree = (.ok (), tree.setNode place (.file contents)) := by
  unfold write
  rw [run_bind_of_ok (run_get tree)]
  cases hlocate : tree.locateAlong path (namedSegments path) with
  | error fault => exact .inl ⟨fault, run_bind_of_error (run_mk ..)⟩
  | ok place =>
    rw [run_bind_of_ok (run_mk ..)]
    split
    case isTrue => exact .inl ⟨.isDirectory, rfl⟩
    case isFalse hopen =>
      rw [Bool.or_eq_true, not_or, beq_iff_eq] at hopen
      exact .inr ⟨place, rfl, hopen.2, rfl⟩

theorem steady_write (path : Path) (contents : FileContents) : Steady (write path contents) := by
  intro tree
  rcases run_write_cases path contents tree with ⟨fault, hrun⟩ | ⟨place, -, hnode, hrun⟩ <;> rw [hrun]
  · exact .refl tree
  · exact stays_setNode_file hnode contents

theorem paved_of_follow {init : List String} {name : String} {target : Place}
    (hdown : Downward (init ++ [name])) (h : tree.follow place (init ++ [name]) = .ok target) :
    tree.Paved place (Path.named init) := by
  have henter : ∀ {place next : Place} {segment : String}, tree.enter place segment = .ok next →
      tree.node? place = some .directory := by
    intro place next segment h
    unfold enter at h
    split at h
    · cases h
    · cases h
    · assumption
  induction init generalizing place with
  | nil =>
    rw [List.nil_append, follow_cons] at h
    obtain ⟨next, hnext, -⟩ := Except.bind_eq_ok_iff.1 h
    exact along_nil_iff.2 (henter hnext)
  | cons segment init ih =>
    obtain ⟨hsegment, hdown⟩ := List.forall_mem_cons.1 hdown
    rw [List.cons_append, follow_cons] at h
    obtain ⟨next, hnext, hrest⟩ := Except.bind_eq_ok_iff.1 h
    have hnode := henter hnext
    rw [enter_directory hnode hsegment] at hnext
    cases hnext
    exact along_named_cons_iff.2 ⟨hnode, ih hdown hrest⟩

/-- Where a file has been written there is a file, and above it there are directories. -/
theorem Way.of_run_write {first init : List String} {name : String} (h : Way path first init name)
    (hleads : tree.Leads first place) {contents : FileContents}
    (hrun : (write path contents).run.run tree = (.ok (), later)) :
    later.node? (place ++ (Path.named init ++ [name])) = some (.file contents) ∧
      later.Paved place (Path.named init) := by
  rcases run_write_cases path contents tree with ⟨fault, hfailed⟩ | ⟨target, hlocate, hnode, hwritten⟩
  · rw [hfailed] at hrun
    cases hrun
  · rw [hwritten] at hrun
    cases hrun
    rw [h.namedSegments_eq] at hlocate
    have hfollow := hlocate
    rw [h.locateAlong_eq hleads] at hfollow
    have hpaved := paved_of_follow h.downward hfollow
    rw [h.locateAlong_of_paved hleads hpaved] at hlocate
    cases hlocate
    refine ⟨?_, (stays_setNode_file hnode contents).toKeeps.paved hpaved⟩
    rw [node?_setNode (by simp), if_pos rfl]

end FileTree

end RouteScaffold
