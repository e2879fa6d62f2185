import RouteScaffold.Proofs.Plan.Layout

/-!
# Joined packages and their module

A joined package is the normal form of its parts: it has their segments in order, whatever slashes stand around
them. So parts can be joined a few at a time, and joining once more changes nothing.

The module is found otherwise, by taking slashes from the ends of the root package before it is cut, and still it is
the first segment of the normal form. Files name packages below the root package and packages below the module alone,
and both lie in this one module.

The main statement is `joinPackages_normalises`.
-/

namespace RouteScaffold

namespace Naming

variable {s t : List Char} {parts others : List String} {package : String}

/-- What stands between the slashes of a text, empty segments included; an empty text has no segments. -/
def slashSegments (text : String) : List (List Char) :=
  if text = "" then [] else text.toList.splitOn '/'

/-- The normal form of the parts: it has their segments in order but for empty ones, with single slashes between
them and none at an end. -/
structure IsNormalForm (parts : List String) (package : String) : Prop where
  segments : slashSegments package = (parts.flatMap slashSegments).filter (!·.isEmpty)
  path : package = "" ∨ IsImportPath package

theorem filter_slashSegments (text : String) :
    (slashSegments text).filter (!·.isEmpty) = nonemptySegments text.toList := by
  unfold slashSegments
  split
  case isTrue hempty =>
    rw [hempty]
    rfl
  case isFalse => rfl

theorem filter_flatMap_slashSegments (parts : List String) :
    (parts.flatMap slashSegments).filter (!·.isEmpty) = parts.flatMap fun part => nonemptySegments part.toList := by
  rw [List.filter_flatMap]
  exact List.flatMap_congr fun part _ => filter_slashSegments part

theorem ofList_intercalate_slashSegments (text : String) :
    String.ofList (['/'].intercalate (slashSegments text)) = text := by
  unfold slashSegments
  split
  case isTrue hempty =>
    rw [hempty]
    rfl
  case isFalse => rw [List.intercalate_splitOn, String.ofList_toList]

theorem joinPackages_eq_empty_iff :
    joinPackages parts = "" ↔ (parts.flatMap fun part => nonemptySegments part.toList) = [] := by
  constructor
  · intro hempty
    rw [← nonemptySegments_joinPackages, hempty]
    rfl
  · intro hnone
    rw [joinPackages, hnone]
    rfl

/-- No segment is lost or made empty by joining, so none is to be dropped. -/
theorem slashSegments_joinPackages (parts : List String) :
    slashSegments (joinPackages parts) = parts.flatMap fun part => nonemptySegments part.toList := by
  unfold slashSegments
  split
  case isTrue hempty => exact (joinPackages_eq_empty_iff.1 hempty).symm
  case isFalse hne =>
    rw [joinPackages, String.toList_ofList, List.splitOn_intercalate '/'
      (fun _ hsegment => (segment_of_mem_flatMap hsegment).2) (joinPackages_eq_empty_iff.not.1 hne)]

theorem isNormalForm_joinPackages (parts : List String) : IsNormalForm parts (joinPackages parts) where
  segments := by rw [slashSegments_joinPackages, filter_flatMap_slashSegments]
  path := or_iff_not_imp_left.2 fun hne =>
    isImportPath_intercalate (joinPackages_eq_empty_iff.not.1 hne) fun _ => segment_of_mem_flatMap

/-- Parts have one normal form, for a text is its segments with slashes between them. -/
theorem isNormalForm_iff : IsNormalForm parts package ↔ joinPackages parts = package := by
  constructor
  · intro h
    calc joinPackages parts
        = .ofList (['/'].intercalate ((parts.flatMap slashSegments).filter (!·.isEmpty))) := by
          rw [filter_flatMap_slashSegments, joinPackages]
      _ = .ofList (['/'].intercalate (slashSegments package)) := by rw [h.segments]
      _ = package := ofList_intercalate_slashSegments package
  · rintro rfl
    exact isNormalForm_joinPackages parts

theorem joinPackages_congr
    (h : (parts.flatMap fun part => nonemptySegments part.toList) =
      others.flatMap fun part => nonemptySegments part.toList) : joinPackages parts = joinPackages others := by
  rw [joinPackages, h, ← joinPackages]

theorem joinPackages_append (parts others : List String) :
    joinPackages (parts ++ others) = joinPackages [joinPackages parts, joinPackages others] := by
  apply joinPackages_congr
  simp [nonemptySegments_joinPackages]

theorem joinPackages_joinPackages (parts : List String) : joinPackages [joinPackages parts] = joinPackages parts := by
  apply joinPackages_congr
  simp [nonemptySegments_joinPackages]

/-! ### The module -/

theorem nonemptySegments_slashes_append (hs : ∀ c ∈ s, c = '/') (t : List Char) :
    nonemptySegments (s ++ t) = nonemptySegments t := by
  induction s with
  | nil => rfl
  | cons c rest ih =>
    obtain ⟨rfl, hrest⟩ := List.forall_mem_cons.1 hs
    exact (nonemptySegments_append_slash [] (rest ++ t)).trans (ih hrest)

theorem nonemptySegments_append_slashes (ht : ∀ c ∈ t, c = '/') (s : List Char) :
    nonemptySegments (s ++ t) = nonemptySegments s := by
  cases t with
  | nil => rw [List.append_nil]
  | cons c rest =>
    obtain ⟨rfl, hrest⟩ := List.forall_mem_cons.1 ht
    have hnone : nonemptySegments rest = [] := by
      rw [← List.append_nil rest, nonemptySegments_slashes_append hrest]
      rfl
    rw [nonemptySegments_append_slash, hnone, List.append_nil]

theorem nonemptySegments_stripWhile (s : List Char) :
    nonemptySegments (Text.stripWhile (· == '/') s) = nonemptySegments s := by
  obtain ⟨front, back, hs, hfront, hback⟩ := Text.exists_stripWhile_eq (· == '/') s
  conv_rhs => rw [hs]
  rw [nonemptySegments_append_slashes (by simpa using hback),
    nonemptySegments_slashes_append (by simpa using hfront)]

/-- A text that does not begin with a slash begins with its first segment, or is empty. -/
theorem head?_splitOn_slash (h : s.head? ≠ some '/') :
    (s.splitOn '/').head? = some ((nonemptySegments s).headD []) := by
  cases s with
  | nil => rfl
  | cons c rest =>
    obtain ⟨first, more, hsplit⟩ := List.exists_cons_of_ne_nil (List.splitOn_ne_nil '/' rest)
    have hcut : (c :: rest).splitOn '/' = (c :: first) :: more := by
      rw [List.splitOn_cons_eq_if_modifyHead, if_neg (by simpa using h), hsplit]
      rfl
    rw [nonemptySegments, hcut]
    rfl

end Naming

open Naming

namespace Config

variable {cfg : Config}

theorem toList_moduleName (cfg : Config) :
    cfg.moduleName.toList = (nonemptySegments cfg.rootPackage.toList).headD [] := by
  -- The slashes are off the front, so the first part of the cut is empty only if all is.
  have hhead : (Text.stripWhile (· == '/') cfg.rootPackage.toList).head? ≠ some '/' := by
    intro hslash
    exact absurd (Text.head_stripWhile (· == '/') hslash) (by decide)
  have hfirst := head?_splitOn_slash hhead
  rw [nonemptySegments_stripWhile] at hfirst
  unfold moduleName
  rw [Text.trimMatches, String.toList_ofList]
  cases hsplit : (Text.stripWhile (· == '/') cfg.rootPackage.toList).splitOn '/' with
  | nil =>
    rw [hsplit] at hfirst
    cases hfirst
  | cons first more =>
    rw [hsplit] at hfirst
    exact (String.toList_ofList).trans (Option.some.inj hfirst)

theorem moduleName_eq_empty_iff : cfg.moduleName = "" ↔ nonemptySegments cfg.rootPackage.toList = [] := by
  rw [← String.toList_eq_nil_iff, toList_moduleName]
  cases hsegments : nonemptySegments cfg.rootPackage.toList with
  | nil => simp
  | cons first more =>
    have hfirst : first ∈ nonemptySegments cfg.rootPackage.toList := by
      rw [hsegments]
      exact List.mem_cons_self
    simpa using ne_nil_of_mem_nonemptySegments hfirst

/-- The first segment of the text is the module; where there is no module, the text has no segments. -/
def Leads (cfg : Config) (root : String) : Prop :=
  (nonemptySegments root.toList).head? = if cfg.moduleName = "" then none else some cfg.moduleName.toList

theorem leads_rootPackage (cfg : Config) : cfg.Leads cfg.rootPackage := by
  unfold Leads
  split
  case isTrue hempty => rw [moduleName_eq_empty_iff.1 hempty, List.head?_nil]
  case isFalse hne =>
    obtain ⟨first, more, hsegments⟩ := List.exists_cons_of_ne_nil (moduleName_eq_empty_iff.not.1 hne)
    rw [toList_moduleName, hsegments]
    rfl

theorem leads_moduleName (cfg : Config) : cfg.Leads cfg.moduleName := by
  have hroot := cfg.leads_rootPackage
  unfold Leads at hroot ⊢
  split at hroot
  case isTrue hempty =>
    rw [if_pos hempty, hempty]
    rfl
  case isFalse hne =>
    have hmodule := List.mem_of_head? hroot
    rw [if_neg hne, nonemptySegments_of_notMem (ne_nil_of_mem_nonemptySegments hmodule)
      (notMem_of_mem_nonemptySegments hmodule)]
    rfl

/-- A package below the module; where there is no module, a package that stands alone. -/
def InModule (cfg : Config) (package : String) : Prop :=
  ∃ below, IsImportPath below ∧ package = if cfg.moduleName = "" then below else cfg.moduleName ++ "/" ++ below

theorem Leads.inModule {root path : String} (hroot : cfg.Leads root) (hpath : nonemptySegments path.toList ≠ []) :
    cfg.InModule (joinPackages [root, path]) := by
  unfold Leads at hroot
  split at hroot
  case isTrue hempty => exact ⟨_, isImportPath_joinPackages hpath, (if_pos hempty).symm⟩
  case isFalse hne =>
    -- Below the module stands what the root has after its first segment, then the path.
    obtain ⟨more, hsegments⟩ := List.head?_eq_some_iff.1 hroot
    have hbelow : more ++ nonemptySegments path.toList ≠ [] := List.append_ne_nil_of_right_ne_nil more hpath
    have hparts : ([root, path].flatMap fun part => nonemptySegments part.toList) =
        cfg.moduleName.toList :: (more ++ nonemptySegments path.toList) := by
      simp [hsegments]
    refine ⟨.ofList (['/'].intercalate (more ++ nonemptySegments path.toList)), ?_, ?_⟩
    · apply isImportPath_intercalate hbelow
      intro part hpart
      have hmem : part ∈ [root, path].flatMap fun part => nonemptySegments part.toList := by
        rw [hparts]
        exact List.mem_cons_of_mem _ hpart
      exact segment_of_mem_flatMap hmem
    · rw [if_neg hne, joinPackages, hparts, List.intercalate_cons_of_ne_nil hbelow, String.ofList_append,
        String.ofList_append, String.ofList_toList]

end Config

/-- The packages that the files of a graph name: those that handlers import, those of the interfaces and those of the
error catalog. -/
inductive RouteGraph.NamesPackage (graph : RouteGraph) (cfg : Config) (package : String) : Prop where
  | handler {placed : PlacedGroup} {naming : NamingFormat} {routeIndex : Nat} {route : Route} {plan : HandlerPlan}
      (mem_graph : placed ∈ graph.placed) (mem_group : (routeIndex, route) ∈ placed.routes)
      (planned : placed.handlerPlan cfg naming routeIndex route = .ok plan) (named : package ∈ plan.data.imports)
  | interface {guarded : GuardedGroup} {face : AuthInterface} (mem_graph : guarded ∈ graph.guarded cfg)
      (planned : guarded.authInterface cfg = .ok face) (named : package ∈ face.authPackage :: face.imports)
  | catalog {catalog : DenialCatalog} (planned : graph.denialCatalog cfg = .ok catalog)
      (named : package ∈ catalog.imports)

namespace RouteGraph.NamesPackage

variable {graph : RouteGraph} {cfg : Config} {package : String}

theorem inModule (h : graph.NamesPackage cfg package) : cfg.InModule package := by
  cases h with
  | handler _ _ hplan hnamed =>
    obtain ⟨-, rfl⟩ := PlacedGroup.handlerPlan_eq_ok_iff.1 hplan
    obtain ⟨path, hpath, rfl⟩ := exists_path_of_mem_handlerImports hnamed
    exact cfg.leads_rootPackage.inModule hpath
  | interface _ hface hnamed =>
    obtain ⟨methods, -, hface⟩ := Except.bind_eq_ok_iff.1 hface
    cases hface
    simp only [List.mem_cons, List.not_mem_nil, or_false] at hnamed
    obtain rfl | rfl | rfl := hnamed
    · exact cfg.leads_rootPackage.inModule (by decide)
    · exact cfg.leads_moduleName.inModule (by decide)
    · exact cfg.leads_moduleName.inModule (by decide)
  | catalog hcatalog hnamed =>
    obtain ⟨groups, -, hcatalog⟩ := Except.bind_eq_ok_iff.1 hcatalog
    cases hcatalog
    obtain rfl := List.mem_singleton.1 hnamed
    exact cfg.leads_moduleName.inModule (by decide)

end RouteGraph.NamesPackage

/-- Packages can be joined in groups and joined again, for what comes out is the normal form of the parts. The module
is the first segment of the root package in normal form, so that all packages named by the files of a graph lie in one
module, whether they are found below the root package or below the module. -/
theorem joinPackages_normalises (graph : RouteGraph) (cfg : Config) (parts others : List String) :
    joinPackages (parts ++ others) = joinPackages [joinPackages parts, joinPackages others] ∧
      joinPackages [joinPackages parts] = joinPackages parts ∧
      (∀ package, IsNormalForm parts package ↔ joinPackages parts = package) ∧
      ((joinPackages [cfg.rootPackage]).toList.splitOn '/').head? = some cfg.moduleName.toList ∧
      (cfg.moduleName = "" ↔ joinPackages [cfg.rootPackage] = "") ∧
      ∀ package, graph.NamesPackage cfg package → cfg.InModule package := by
  refine ⟨joinPackages_append parts others, joinPackages_joinPackages parts, fun _ => isNormalForm_iff, ?_, ?_,
    fun _ => RouteGraph.NamesPackage.inModule⟩
  · rw [head?_splitOn_slash, nonemptySegments_joinPackages, List.flatMap_singleton, ← Config.toList_moduleName]
    obtain hempty | hpath := (isNormalForm_joinPackages [cfg.rootPackage]).path
    · rw [hempty]
      decide
    · exact hpath.head
  · rw [Config.moduleName_eq_empty_iff, joinPackages_eq_empty_iff, List.flatMap_singleton]

/-- A root package with more slashes than it needs. -/
def slashedConfig : Config := { rootPackage := "//example.com//shop/" }

theorem usersGraph_packages_inModule :
    (usersGraph.NamesPackage slashedConfig "example.com/shop/internal/logic/users" ∧
      usersGraph.NamesPackage slashedConfig "example.com/ent" ∧
        usersGraph.NamesPackage slashedConfig "example.com/common/berr") ∧
      slashedConfig.moduleName = "example.com" ∧
        slashedConfig.InModule "example.com/shop/internal/logic/users" ∧ slashedConfig.InModule "example.com/ent" ∧
          slashedConfig.InModule "example.com/common/berr" := by
  have hhandler : usersGraph.NamesPackage slashedConfig "example.com/shop/internal/logic/users" := by
    obtain ⟨placed, hplaced, ⟨routeIndex, route⟩, hroute, hany⟩ : ∃ placed ∈ usersGraph.placed,
        ∃ p ∈ placed.routes, (placed.handlerPlan slashedConfig {} p.1 p.2).toOption.any
          (fun plan => decide ("example.com/shop/internal/logic/users" ∈ plan.data.imports)) = true := by
      decide +kernel
    obtain ⟨plan, hplan, hnamed⟩ := Except.any_toOption_iff.1 hany
    exact .handler hplaced hroute hplan (of_decide_eq_true hnamed)
  have hface : usersGraph.NamesPackage slashedConfig "example.com/ent" := by
    obtain ⟨guarded, hguarded, hany⟩ : ∃ guarded ∈ usersGraph.guarded slashedConfig,
        (guarded.authInterface slashedConfig).toOption.any
          (fun face => decide ("example.com/ent" ∈ face.authPackage :: face.imports)) = true := by
      decide +kernel
    obtain ⟨face, hface, hnamed⟩ := Except.any_toOption_iff.1 hany
    exact .interface hguarded hface (of_decide_eq_true hnamed)
  have hcatalog : usersGraph.NamesPackage slashedConfig "example.com/common/berr" := by
    obtain ⟨catalog, hcatalog, hnamed⟩ : ∃ catalog, usersGraph.denialCatalog slashedConfig = .ok catalog ∧
        decide ("example.com/common/berr" ∈ catalog.imports) = true :=
      Except.any_toOption_iff.1 (by decide +kernel)
    exact .catalog hcatalog (of_decide_eq_true hnamed)
  have hmodule : slashedConfig.moduleName = "example.com" := by decide +kernel
  obtain ⟨-, -, -, -, -, hinModule⟩ := joinPackages_normalises usersGraph slashedConfig [] []
  exact ⟨⟨hhandler, hface, hcatalog⟩, hmodule, hinModule _ hhandler, hinModule _ hface, hinModule _ hcatalog⟩

end RouteScaffold
