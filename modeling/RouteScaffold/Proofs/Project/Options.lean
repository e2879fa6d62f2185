import RouteScaffold.Project.Options
import RouteScaffold.Proofs.Document.Defaults
import RouteScaffold.Proofs.Files.Readable
import RouteScaffold.Proofs.Generation.Run
import RouteScaffold.Proofs.Plan.Format

/-!
# The options of a run

A run takes each option from the command line, else from its options file, else from the defaults. Nothing is
changed on the way but the log, and no plan that is made with these options finds fault with their naming format.

The main statement is `resolve_spec`.
-/

namespace RouteScaffold

/-! ### The options file -/

/-- The options in a file, if it is there. -/
def FileTree.config? (files : FileTree) (path : Path) : Except RunFault (Option Config) :=
  if files.holds path then
    match files.readText path with
    | .error fault => .error (.configUnread path fault)
    | .ok source =>
      match Config.read? source with
      | none => .error (.configMalformed path)
      | some cfg => .ok (some cfg)
  else .ok none

theorem FileTree.config?_eq_ok_some_iff {files : FileTree} {path : Path} {cfg : Config} :
    files.config? path = .ok (some cfg) ↔
      ∃ source, files.readText path = .ok source ∧ Config.read? source = some cfg := by
  unfold config?
  constructor
  · intro h
    split at h
    case isFalse => cases h
    case isTrue =>
      cases hread : files.readText path with
      | error fault => simp [hread] at h
      | ok source =>
        cases hparse : Config.read? source with
        | none => simp [hread, hparse] at h
        | some read =>
          simp only [hread, hparse] at h
          cases h
          exact ⟨source, rfl, hparse⟩
  · rintro ⟨source, hread, hparse⟩
    rw [if_pos (holds_of_readText hread), hread]
    simp only [hparse]

theorem run_adapt_readText (failure : IoFault → RunFault) (path : Path) (desk : Desk) :
    (ExceptT.adapt failure (Host.readText path) : ExceptT RunFault (StateM Desk) String).run.run desk =
      ((desk.files.readText path).mapError failure, desk) := by
  rw [ExceptT.run_adapt, StateT.run_map]
  rfl

theorem run_loadConfig (path : Path) (desk : Desk) :
    (loadConfig path : ExceptT RunFault (StateM Desk) (Option Config)).run.run desk =
      (desk.files.config? path, desk) := by
  have hholds : (ExceptT.lift (Host.holds path) : ExceptT RunFault (StateM Desk) Bool).run.run desk =
    (.ok (desk.files.holds path), desk) := rfl
  have hread := run_adapt_readText (RunFault.configUnread path) path desk
  unfold loadConfig FileTree.config?
  rw [run_bind_of_ok hholds]
  split
  case isFalse => rfl
  case isTrue =>
    cases hfile : desk.files.readText path with
    | error fault =>
      rw [hfile] at hread
      rw [run_bind_of_error hread]
    | ok source =>
      rw [hfile] at hread
      rw [run_bind_of_ok hread]
      cases hparse : Config.read? source <;> simp only [hparse] <;> rfl

namespace ProjectArgs

variable {args : ProjectArgs} {desk : Desk}

/-- The options file of a run: the one on the command line, else the one beside the graph if it is there. -/
def selected? (args : ProjectArgs) (files : FileTree) : Option Path :=
  args.config <|> (args.graph.parent?.map (·.join ⟨configFileName⟩)).filter (files.holds ·)

theorem run_selectConfig (args : ProjectArgs) (desk : Desk) :
    (ExceptT.lift (selectConfig args.config args.graph) : ExceptT RunFault (StateM Desk) _).run.run desk =
      (.ok (args.selected? desk.files), desk) := by
  unfold selected? selectConfig findConfig
  cases args.config with
  | some path => rfl
  | none =>
    cases args.graph.parent? with
    | none => rfl
    | some dir =>
      simp only [Option.map_some, Option.filter]
      rfl

/-- The options of the selected file, or the default ones, or what is wrong with the file. -/
def fileResult (args : ProjectArgs) (files : FileTree) : Except RunFault Config :=
  match args.selected? files with
  | none => .ok {}
  | some path =>
    files.config? path >>= fun found =>
      match found with
      | none => .error (.configMissing path)
      | some cfg => .ok (cfg.seenFrom path)

theorem run_fileConfig (args : ProjectArgs) (desk : Desk) :
    ∃ events, (args.fileConfig : ExceptT RunFault (StateM Desk) Config).run.run desk =
      (args.fileResult desk.files, { desk with events }) := by
  unfold fileConfig fileResult
  rw [run_bind_of_ok (run_selectConfig args desk)]
  cases args.selected? desk.files with
  | none => exact ⟨desk.events, rfl⟩
  | some path =>
    have hload := run_loadConfig path desk
    simp only
    cases hfound : desk.files.config? path with
    | error fault =>
      rw [hfound] at hload
      exact ⟨desk.events, run_bind_of_error hload⟩
    | ok found =>
      rw [hfound] at hload
      rw [run_bind_of_ok hload]
      cases found with
      | none => exact ⟨desk.events, rfl⟩
      | some cfg => exact ⟨_, rfl⟩

theorem run_resolve (args : ProjectArgs) (desk : Desk) :
    ∃ events, (args.resolve : ExceptT RunFault (StateM Desk) Config).run.run desk =
      ((args.fileResult desk.files).bind fun cfg => (args.override cfg).checked, { desk with events }) := by
  obtain ⟨events, hfile⟩ := run_fileConfig args desk
  refine ⟨events, ?_⟩
  unfold resolve
  cases hresult : args.fileResult desk.files with
  | error fault =>
    rw [hresult] at hfile
    rw [run_bind_of_error hfile]
    rfl
  | ok cfg =>
    rw [hresult] at hfile
    rw [run_bind_of_ok hfile]
    rfl

/-! ### What is put together -/

/-- The selected options file is there and is read, and this is what it gives. Without a file nothing is
given. -/
def Gives (args : ProjectArgs) (files : FileTree) (given : Config.Given) : Prop :=
  match args.selected? files with
  | none => given = {}
  | some path => files.holds path = true ∧
      ∃ source, files.readText path = .ok source ∧ Config.Given.read? source = some given

/-- Where a template directory is that an options file gives: a relative one is below the directory of the
file. -/
inductive SeenFrom (file : Option Path) : Option Path → Option Path → Prop
  | notGiven : SeenFrom file none none
  | absolute {dir : Path} (h : dir.isAbsolute = true) : SeenFrom file (some dir) (some dir)
  | relative {path base dir : Path} (hfile : file = some path) (hbase : path.parent? = some base)
      (h : dir.isAbsolute = false) : SeenFrom file (some dir) (some (base.join dir))

/-- Options are put together from the command line, from what an options file gives and from the defaults. -/
structure Merges (args : ProjectArgs) (file : Option Path) (given : Config.Given) (cfg : Config) : Prop where
  namingFormat : cfg.namingFormat = (args.style <|> given.namingFormat).getD "gozero"
  rootPackage : cfg.rootPackage = (args.rootPackage <|> given.rootPackage).getD ""
  auth : cfg.auth = (given.auth.getD true && !args.noAuth)
  folderKey : cfg.annotations.folder = given.annotations.folder.getD "group"
  authKey : cfg.annotations.auth = given.annotations.auth.getD "group"
  home : ∀ home, args.home = some home → cfg.templateDir = some home
  noHome : args.home = none → SeenFrom file given.templateDir cfg.templateDir

variable {files : FileTree} {file : Option Path} {given : Config.Given} {cfg : Config}

theorem SeenFrom.unique {given? first second : Option Path} (hfirst : SeenFrom file given? first)
    (hsecond : SeenFrom file given? second) : first = second := by
  cases hfirst with
  | notGiven =>
    cases hsecond
    rfl
  | absolute h =>
    cases hsecond with
    | absolute => rfl
    | relative _ _ hrelative =>
      rw [h] at hrelative
      cases hrelative
  | relative hfile hbase h =>
    cases hsecond with
    | absolute habsolute =>
      rw [h] at habsolute
      cases habsolute
    | relative hfile' hbase' =>
      rw [hfile] at hfile'
      cases hfile'
      rw [hbase] at hbase'
      cases hbase'
      rfl

/-- The options of the selected file are what it gives, completed, with its template directory found. -/
theorem exists_seenFrom (hgives : args.Gives files given) :
    ∃ templateDir, SeenFrom (args.selected? files) given.templateDir templateDir ∧
      (args.selected? files).elim given.completed given.completed.seenFrom =
        { given.completed with templateDir } := by
  unfold Gives at hgives
  cases hselected : args.selected? files with
  | none =>
    rw [hselected] at hgives
    subst hgives
    exact ⟨none, .notGiven, rfl⟩
  | some path =>
    rw [hselected] at hgives
    obtain ⟨-, source, hread, -⟩ := hgives
    -- the file has been read, so a relative directory always has something to be relative to
    obtain ⟨base, hbase⟩ := FileTree.exists_parent?_of_readText hread
    rw [Option.elim_some, Config.seenFrom]
    simp only [Config.Given.completed, hbase]
    cases given.templateDir with
    | none => exact ⟨none, .notGiven, rfl⟩
    | some dir =>
      cases hdir : dir.isAbsolute with
      | true => exact ⟨some dir, .absolute hdir, by simp [hdir]⟩
      | false => exact ⟨some (base.join dir), .relative rfl hbase hdir, by simp [hdir]⟩

theorem merges_override {templateDir : Option Path} (hseen : SeenFrom file given.templateDir templateDir) :
    args.Merges file given (args.override { given.completed with templateDir }) where
  namingFormat := by cases hstyle : args.style <;> simp [override, hstyle, Config.Given.completed]
  rootPackage := by cases hroot : args.rootPackage <;> simp [override, hroot, Config.Given.completed]
  auth := rfl
  folderKey := rfl
  authKey := rfl
  home home hhome := by simp [override, hhome]
  noHome hhome := by simpa [override, hhome] using hseen

theorem Merges.unique {other : Config} (h : args.Merges file given cfg) (hother : args.Merges file given other) :
    cfg = other := by
  have hdir : cfg.templateDir = other.templateDir := by
    cases hhome : args.home with
    | some home => rw [h.home home hhome, hother.home home hhome]
    | none => exact (h.noHome hhome).unique (hother.noHome hhome)
  obtain ⟨namingFormat, rootPackage, auth, ⟨folder, authKey⟩, templateDir⟩ := cfg
  obtain ⟨namingFormat', rootPackage', auth', ⟨folder', authKey'⟩, templateDir'⟩ := other
  simp only [Config.mk.injEq, AnnotationKeys.mk.injEq]
  exact ⟨h.namingFormat.trans hother.namingFormat.symm, h.rootPackage.trans hother.rootPackage.symm,
    h.auth.trans hother.auth.symm,
    ⟨h.folderKey.trans hother.folderKey.symm, h.authKey.trans hother.authKey.symm⟩, hdir⟩

theorem merges_iff (hgives : args.Gives files given) : args.Merges (args.selected? files) given cfg ↔
    cfg = args.override ((args.selected? files).elim given.completed given.completed.seenFrom) := by
  obtain ⟨templateDir, hseen, hfile⟩ := exists_seenFrom hgives
  rw [hfile]
  constructor
  · intro h
    exact h.unique (merges_override hseen)
  · rintro rfl
    exact merges_override hseen

theorem fileResult_eq_ok_iff : args.fileResult files = .ok cfg ↔ ∃ given, args.Gives files given ∧
    cfg = (args.selected? files).elim given.completed given.completed.seenFrom := by
  unfold fileResult Gives
  cases args.selected? files with
  | none =>
    constructor
    · rintro ⟨⟩
      exact ⟨{}, rfl, rfl⟩
    · rintro ⟨_, rfl, rfl⟩
      rfl
  | some path =>
    simp only [Option.elim_some]
    rw [Except.bind_eq_ok_iff]
    constructor
    · rintro ⟨found, hfound, h⟩
      cases found with
      | none => cases h
      | some read =>
        cases h
        obtain ⟨source, hread, hparse⟩ := FileTree.config?_eq_ok_some_iff.1 hfound
        rw [Config.read?_eq_given, Option.map_eq_some_iff] at hparse
        obtain ⟨given, hgiven, rfl⟩ := hparse
        exact ⟨given, ⟨FileTree.holds_of_readText hread, source, hread, hgiven⟩, rfl⟩
    · rintro ⟨given, ⟨-, source, hread, hgiven⟩, rfl⟩
      have hparse : Config.read? source = some given.completed := by
        rw [Config.read?_eq_given, hgiven]
        rfl
      exact ⟨_, FileTree.config?_eq_ok_some_iff.2 ⟨source, hread, hparse⟩, rfl⟩

end ProjectArgs

/-! ### Putting them together -/

theorem Config.checked_eq_ok_iff {cfg checked : Config} :
    cfg.checked = .ok checked ↔ checked = cfg ∧ IsNamingFormat cfg.namingFormat := by
  have hnaming : (∃ naming, cfg.naming = .ok naming) ↔ IsNamingFormat cfg.namingFormat := exists_naming_iff
  unfold Config.checked
  cases h : cfg.naming with
  | ok naming =>
    have hformat : IsNamingFormat cfg.namingFormat := hnaming.1 ⟨naming, h⟩
    simp [hformat, eq_comm]
  | error failure =>
    have hformat : ¬ IsNamingFormat cfg.namingFormat := by
      rw [← hnaming, h]
      rintro ⟨_, ⟨⟩⟩
    simp [hformat]

namespace ProjectArgs

theorem resolve_eq_ok_iff {args : ProjectArgs} {files : FileTree} {cfg : Config} :
    ((args.fileResult files).bind fun cfg => (args.override cfg).checked) = .ok cfg ↔
      ∃ given, args.Gives files given ∧ args.Merges (args.selected? files) given cfg ∧
        IsNamingFormat cfg.namingFormat := by
  change (args.fileResult files >>= fun cfg => (args.override cfg).checked) = .ok cfg ↔ _
  rw [Except.bind_eq_ok_iff]
  constructor
  · rintro ⟨read, hread, hchecked⟩
    obtain ⟨rfl, hformat⟩ := Config.checked_eq_ok_iff.1 hchecked
    obtain ⟨given, hgives, rfl⟩ := fileResult_eq_ok_iff.1 hread
    exact ⟨given, hgives, (merges_iff hgives).2 rfl, hformat⟩
  · rintro ⟨given, hgives, hmerges, hformat⟩
    obtain rfl := (merges_iff hgives).1 hmerges
    exact ⟨_, fileResult_eq_ok_iff.2 ⟨given, hgives, rfl⟩, Config.checked_eq_ok_iff.2 ⟨rfl, hformat⟩⟩

/-- The options of a run, whatever the command line says and the file system holds. They are found exactly when
the selected file gives options and the naming format that is put together is one; a format on the command line
makes that of the file irrelevant. Nothing but the log changes, and no plan with these options fails with a
fault of its naming format. -/
theorem resolve_spec (args : ProjectArgs) (desk : Desk) :
    ∃ result events,
      (args.resolve : ExceptT RunFault (StateM Desk) Config).run.run desk = (result, { desk with events }) ∧
      (∀ cfg, result = .ok cfg ↔ ∃ given, args.Gives desk.files given ∧
        args.Merges (args.selected? desk.files) given cfg ∧ IsNamingFormat cfg.namingFormat) ∧
      ((∃ cfg, result = .ok cfg) ↔ ∃ given, args.Gives desk.files given ∧
        IsNamingFormat ((args.style <|> given.namingFormat).getD "gozero")) ∧
      (∀ style, args.style = some style → ((∃ cfg, result = .ok cfg) ↔
        (∃ given, args.Gives desk.files given) ∧ IsNamingFormat style)) ∧
      ∀ cfg, result = .ok cfg → ∀ (graph : RouteGraph) registry engine format fault,
        graph.plan cfg registry engine ≠ .error (.configuration format fault) := by
  obtain ⟨events, hrun⟩ := run_resolve args desk
  have hsucceeds :
      (∃ cfg, ((args.fileResult desk.files).bind fun cfg => (args.override cfg).checked) = .ok cfg) ↔
        ∃ given, args.Gives desk.files given ∧
          IsNamingFormat ((args.style <|> given.namingFormat).getD "gozero") := by
    simp only [resolve_eq_ok_iff]
    constructor
    · rintro ⟨cfg, given, hgives, hmerges, hformat⟩
      rw [hmerges.namingFormat] at hformat
      exact ⟨given, hgives, hformat⟩
    · rintro ⟨given, hgives, hformat⟩
      have hmerges := (merges_iff hgives).2 rfl
      rw [← hmerges.namingFormat] at hformat
      exact ⟨_, given, hgives, hmerges, hformat⟩
  refine ⟨_, events, hrun, fun cfg => resolve_eq_ok_iff, hsucceeds, fun style hstyle => ?_, ?_⟩
  · have hgiven : ∀ given : Config.Given, (some style <|> given.namingFormat).getD "gozero" = style :=
      fun _ => rfl
    rw [hsucceeds, hstyle]
    simp only [hgiven]
    exact exists_and_right
  · intro cfg hcfg graph registry engine format fault
    obtain ⟨_, -, -, hformat⟩ := resolve_eq_ok_iff.1 hcfg
    exact RouteGraph.plan_ne_configuration hformat format fault

end ProjectArgs

/-- A desk with an options file whose naming format is none. -/
def shopDesk : Desk where
  files := (FileTree.fresh.setNode ["work", "shop"] .directory).setNode ["work", "shop", "routegen.toml"]
    (.file (.text "naming_format = 'zero'\ntemplate_dir = 'tpl'\n"))

example : ((ProjectArgs.resolve { graph := ⟨"shop/api.yaml"⟩, style := some "go_zero" } :
      ExceptT RunFault (StateM Desk) Config).run.run shopDesk).1.toOption =
    some { namingFormat := "go_zero", templateDir := some ⟨"shop/tpl"⟩ } := by
  decide +kernel

end RouteScaffold
