import RouteScaffold.Proofs.Plan.Imports

/-!
# The layout of a handler

One annotation value is cut at its slashes, and everything that depends on the folder of a handler is put together
from the segments that come out: the folder, the folder of the logic, the case of the identifier and the names of
the two packages. However many slashes the value and the root package have, the folders and the import paths have
single ones between their segments.

The main statement is `handlerPlan_laidOut`.
-/

namespace RouteScaffold

theorem Text.title_eq_empty_iff {s : String} : title s = "" ↔ s = "" := by
  constructor
  · intro h
    by_contra hne
    refine titleChars_ne_nil (s := s.toList) ?_ ?_
    · rwa [Ne, String.toList_eq_nil_iff]
    · rw [← toList_title, h]
      rfl
  · rintro rfl
    rfl

namespace Naming

variable {s part : List Char} {parts : List (List Char)}

/-- The segments of a text: what stands between its slashes, without what is empty. -/
inductive CutsAtSlashes : List Char → List (List Char) → Prop where
  | nil : CutsAtSlashes [] []
  | slash {s : List Char} {parts : List (List Char)} (rest : CutsAtSlashes s parts) :
      CutsAtSlashes ('/' :: s) parts
  | last {part : List Char} (ne : part ≠ []) (slash : '/' ∉ part) : CutsAtSlashes part [part]
  | cons {part s : List Char} {parts : List (List Char)} (ne : part ≠ []) (slash : '/' ∉ part)
      (rest : CutsAtSlashes s parts) : CutsAtSlashes (part ++ '/' :: s) (part :: parts)

theorem nonemptySegments_append_slash (s t : List Char) :
    nonemptySegments (s ++ '/' :: t) = nonemptySegments s ++ nonemptySegments t := by
  rw [nonemptySegments, List.splitOn_append_cons_self, List.filter_append]
  rfl

theorem nonemptySegments_of_notMem (hne : part ≠ []) (hslash : '/' ∉ part) : nonemptySegments part = [part] := by
  rw [nonemptySegments, List.splitOn_eq_singleton hslash, List.filter_cons_of_pos (by simpa using hne),
    List.filter_nil]

theorem CutsAtSlashes.nonemptySegments_eq (h : CutsAtSlashes s parts) : nonemptySegments s = parts := by
  induction h with
  | nil => rfl
  | slash _ ih => exact (nonemptySegments_append_slash [] _).trans ih
  | last hne hslash => exact nonemptySegments_of_notMem hne hslash
  | cons hne hslash _ ih =>
    rw [nonemptySegments_append_slash, nonemptySegments_of_notMem hne hslash, ih, List.singleton_append]

theorem cutsAtSlashes_intercalate (hslash : ∀ part ∈ parts, '/' ∉ part) :
    CutsAtSlashes (['/'].intercalate parts) (parts.filter (!·.isEmpty)) := by
  induction parts with
  | nil => exact .nil
  | cons part parts ih =>
    obtain ⟨hpart, hparts⟩ := List.forall_mem_cons.1 hslash
    by_cases hne : part = []
    · -- Of an empty part only the slash behind it is left, and of the last one nothing.
      subst hne
      cases parts with
      | nil => exact .nil
      | cons next others => exact .slash (ih hparts)
    · rw [List.filter_cons_of_pos (by simpa using hne)]
      cases parts with
      | nil =>
        rw [List.intercalate_singleton]
        exact .last hne hpart
      | cons next others => exact .cons hne hpart (ih hparts)

theorem cutsAtSlashes_iff : CutsAtSlashes s parts ↔ nonemptySegments s = parts := by
  refine ⟨CutsAtSlashes.nonemptySegments_eq, ?_⟩
  rintro rfl
  have hslash : ∀ part ∈ s.splitOn '/', '/' ∉ part := fun _ => List.notMem_of_mem_splitOn
  have hcut := cutsAtSlashes_intercalate hslash
  rwa [List.intercalate_splitOn] at hcut

/-- A path with single slashes between its segments and none at an end. -/
structure IsImportPath (package : String) : Prop where
  segments : ∀ segment ∈ package.toList.splitOn '/', segment ≠ []
  head : package.toList.head? ≠ some '/'
  last : package.toList.getLast? ≠ some '/'

theorem isImportPath_of_segments {package : String}
    (h : ∀ segment ∈ package.toList.splitOn '/', segment ≠ []) : IsImportPath package where
  segments := h
  head := by
    intro hhead
    obtain ⟨rest, hrest⟩ := List.head?_eq_some_iff.1 hhead
    rw [hrest, ← List.nil_append ('/' :: rest), List.splitOn_append_cons_self] at h
    exact h [] (List.mem_append_left _ List.mem_cons_self) rfl
  last := by
    intro hlast
    obtain ⟨init, hinit⟩ := List.getLast?_eq_some_iff.1 hlast
    rw [hinit, List.splitOn_append_cons_self] at h
    exact h [] (List.mem_append_right _ List.mem_cons_self) rfl

theorem isImportPath_intercalate (hparts : parts ≠ []) (hsegment : ∀ part ∈ parts, part ≠ [] ∧ '/' ∉ part) :
    IsImportPath (.ofList (['/'].intercalate parts)) := by
  apply isImportPath_of_segments
  rw [String.toList_ofList, List.splitOn_intercalate '/' (fun part hpart => (hsegment part hpart).2) hparts]
  exact fun part hpart => (hsegment part hpart).1

/-- Joined packages have the segments of their parts, however the parts are slashed. -/
theorem isImportPath_joinPackages {root path : String} (hpath : nonemptySegments path.toList ≠ []) :
    IsImportPath (joinPackages [root, path]) :=
  isImportPath_intercalate (by simp [hpath]) fun _ => segment_of_mem_flatMap

theorem ofList_intercalate_slash (parts : List (List Char)) :
    String.ofList (['/'].intercalate parts) = "/".intercalate (parts.map String.ofList) := by
  apply String.toList_injective
  rw [String.toList_ofList, String.toList_intercalate, List.map_map]
  simp [Function.comp_def]

section Folders

variable {cfg : Config} {group : Group} {route : Route}

theorem cutsAtSlashes_folderSegments :
    CutsAtSlashes
      (((route.annotation? cfg.annotations.folder).or (group.annotation? cfg.annotations.folder)).getD "").toList
      (folderSegments group route cfg) := by
  rw [cutsAtSlashes_iff, folderSegments, folderAnnotation?, Option.orElse_eq_orElse, Option.orElse_eq_or]
  cases (route.annotation? cfg.annotations.folder).or (group.annotation? cfg.annotations.folder) with
  | none => rfl
  | some folder => rfl

/-- A folder below a root of two segments, as a text. -/
theorem folderBelow_eq_intercalate {root first second : String}
    (hroot : nonemptySegments root.toList = [first.toList, second.toList]) :
    folderBelow root (folderSegments group route cfg) =
      "/".intercalate ([first, second] ++ (folderSegments group route cfg).map String.ofList) := by
  rw [folderBelow, hroot, ofList_intercalate_slash, List.map_append]
  simp only [List.map_cons, List.map_nil, String.ofList_toList]

theorem getLast?_handlerFolder :
    (["internal", "handler"] ++ (folderSegments group route cfg).map String.ofList).getLast? =
      some (leafSegment (handlerFolder group route cfg)) := by
  have hroot : nonemptySegments handlerRoot.toList = ["internal".toList, "handler".toList] := by
    decide +kernel
  rw [handlerFolder, leafSegment_folderBelow (by rw [hroot]; exact List.cons_ne_nil _ _), getLastD_folderBelow,
    hroot, List.getLast?_append, List.getLast?_map]
  cases (folderSegments group route cfg).getLast? with
  | none => decide
  | some leaf => rfl

/-- No other import of a handler is that of the types. -/
theorem typesImport_mem_iff :
    joinPackages [cfg.rootPackage, typesPackage] ∈ handlerImports group route cfg ↔ route.hasRequest = true := by
  have hlogic : joinPackages [cfg.rootPackage, typesPackage] ≠
      joinPackages [cfg.rootPackage, logicFolder group route cfg] := by
    intro h
    have hsegments := nonemptySegments_eq_of_joinPackages_eq h
    have hroot : nonemptySegments logicRoot.toList = ["internal".toList, "logic".toList] := by decide +kernel
    have htypes : nonemptySegments typesPackage.toList = ["internal".toList, "types".toList] := by decide +kernel
    rw [logicFolder, nonemptySegments_folderBelow, hroot, htypes] at hsegments
    -- The second segments differ, however long the folder is.
    exact absurd (List.cons.inj (List.cons.inj hsegments).2).1 (by decide)
  have hcontext : joinPackages [cfg.rootPackage, typesPackage] ≠
      joinPackages [cfg.rootPackage, contextPackage] := by
    intro h
    exact absurd (nonemptySegments_eq_of_joinPackages_eq h) (by decide +kernel)
  unfold handlerImports
  cases route.hasRequest with
  | false => simp [hlogic, hcontext]
  | true => simp

/-- Every import of a handler is a path of its own below the root package. -/
theorem exists_path_of_mem_handlerImports {package : String} (h : package ∈ handlerImports group route cfg) :
    ∃ path, nonemptySegments path.toList ≠ [] ∧ package = joinPackages [cfg.rootPackage, path] := by
  have hlogic : nonemptySegments (logicFolder group route cfg).toList ≠ [] := by
    rw [logicFolder, nonemptySegments_folderBelow]
    exact List.append_ne_nil_of_left_ne_nil (by decide) _
  unfold handlerImports at h
  obtain h | h := List.mem_append.1 h
  · simp only [List.mem_cons, List.not_mem_nil, or_false] at h
    obtain rfl | rfl := h
    · exact ⟨_, hlogic, rfl⟩
    · exact ⟨_, by decide, rfl⟩
  · split at h
    · exact ⟨_, by decide, List.mem_singleton.1 h⟩
    · cases h

theorem isImportPath_of_mem_handlerImports {package : String} (h : package ∈ handlerImports group route cfg) :
    IsImportPath package := by
  obtain ⟨path, hpath, rfl⟩ := exists_path_of_mem_handlerImports h
  exact isImportPath_joinPackages hpath

end Folders

end Naming

/-- A handler in the folder with the given segments below the roots: its own folder, that of its logic, and
the names that follow from them. -/
structure HandlerPlan.LaidOut (plan : HandlerPlan) (cfg : Config) (group : Group) (route : Route)
    (segments : List String) : Prop where
  source : Naming.CutsAtSlashes
    (((route.annotation? cfg.annotations.folder).or (group.annotation? cfg.annotations.folder)).getD "").toList
    (segments.map String.toList)
  segment : ∀ segment ∈ segments, segment ≠ "" ∧ '/' ∉ segment.toList
  folder : plan.folder = "/".intercalate (["internal", "handler"] ++ segments)
  logicFolder : Naming.logicFolder group route cfg = "/".intercalate (["internal", "logic"] ++ segments)
  handlerName : plan.data.handlerName =
    if segments = [] then Naming.handlerName route.base else Text.title (Naming.handlerName route.base)
  pkgName : (["internal", "handler"] ++ segments).getLast? = some plan.data.pkgName
  pkgName_ne : plan.data.pkgName ≠ ""
  logicImport : plan.data.imports.head? =
    some (Naming.joinPackages [cfg.rootPackage, Naming.logicFolder group route cfg])
  logicPackage : plan.data.imports.head?.map Naming.leafSegment = some plan.data.logicPackage
  qualifier : ∃ line ∈ plan.data.lines, HandlerData.Refers line plan.data.logicPackage
  typesImport : Naming.joinPackages [cfg.rootPackage, Naming.typesPackage] ∈ plan.data.imports ↔
    plan.data.hasRequest = true
  hasRequest : plan.data.hasRequest = true ↔ plan.data.requestType ≠ ""
  imports : ∀ package ∈ plan.data.imports, Naming.IsImportPath package

theorem Naming.laidOut_handlerPlan (cfg : Config) (naming : Naming.NamingFormat) (group : Group) (route : Route) :
    (handlerPlan cfg naming group route route.base).LaidOut cfg group route
      ((folderSegments group route cfg).map String.ofList) where
  source := by
    rw [List.map_map]
    simpa [Function.comp_def] using cutsAtSlashes_folderSegments
  segment := by
    intro segment hsegment
    obtain ⟨part, hpart, rfl⟩ := List.mem_map.1 hsegment
    rw [String.toList_ofList, Ne, String.ofList_eq_empty_iff]
    exact ⟨ne_nil_of_mem_folderSegments hpart, notMem_of_mem_folderSegments hpart⟩
  folder := folderBelow_eq_intercalate (by decide +kernel)
  logicFolder := folderBelow_eq_intercalate (by decide +kernel)
  handlerName := by
    change (if _ then _ else _) = _
    refine if_congr ?_ rfl rfl
    rw [List.isEmpty_iff, List.map_eq_nil_iff]
  pkgName := getLast?_handlerFolder
  pkgName_ne := by
    change leafSegment (handlerFolder group route cfg) ≠ ""
    obtain hroot | hsegment := List.mem_append.1 (List.mem_of_getLast? (@getLast?_handlerFolder cfg group route))
    · intro hempty
      rw [hempty] at hroot
      exact absurd hroot (by decide)
    · obtain ⟨part, hpart, hleaf⟩ := List.mem_map.1 hsegment
      rw [← hleaf, Ne, String.ofList_eq_empty_iff]
      exact ne_nil_of_mem_folderSegments hpart
  logicImport := rfl
  logicPackage := by
    rw [logicPackage_handlerPlan, ← leafSegment_logicImport]
    rfl
  qualifier := by
    apply HandlerData.exists_line_of_mem_qualifiers
    simp [HandlerData.qualifiers]
  typesImport := by
    rw [hasRequest_handlerPlan]
    exact typesImport_mem_iff
  hasRequest := by
    rw [hasRequest_handlerPlan, Route.hasRequest, decide_eq_true_iff]
    change _ ↔ Text.title (Text.trim route.requestType) ≠ ""
    rw [Ne, Ne, Text.title_eq_empty_iff]
  imports := fun _ => isImportPath_of_mem_handlerImports

namespace PlacedGroup

variable {placed : PlacedGroup} {cfg : Config} {naming : Naming.NamingFormat} {routeIndex : Nat} {route : Route}
  {plan : HandlerPlan}

/-- The folders of a handler, its identifier and the packages that it names all follow from the segments of one
annotation value, and its imports are paths with single slashes. -/
theorem handlerPlan_laidOut (h : placed.handlerPlan cfg naming routeIndex route = .ok plan) :
    ∃! segments, plan.LaidOut cfg placed.group route segments := by
  obtain ⟨-, rfl⟩ := handlerPlan_eq_ok_iff.1 h
  refine ⟨(Naming.folderSegments placed.group route cfg).map String.ofList, ?_, ?_⟩
  · exact Naming.laidOut_handlerPlan cfg naming placed.group route
  · -- A value is cut in one way only.
    intro segments hlaid
    have hsegments := Naming.cutsAtSlashes_iff.1 hlaid.source
    rw [Naming.cutsAtSlashes_iff.1 Naming.cutsAtSlashes_folderSegments] at hsegments
    rw [hsegments, List.map_map]
    simp [Function.comp_def]

end PlacedGroup

theorem requestGroup_laidOut :
    ∃ plan, (requestGroup "//svc//users/").handlerPlan {} {} 0 requestRoute = .ok plan ∧
      plan.LaidOut {} (requestGroup "//svc//users/").group requestRoute ["svc", "users"] ∧
        plan.folder = "internal/handler/svc/users" ∧ plan.data.handlerName = "ListHandler" := by
  obtain ⟨plan, hplan, hfolder⟩ : ∃ plan,
      (requestGroup "//svc//users/").handlerPlan {} {} 0 requestRoute = .ok plan ∧
        decide (plan.folder = "internal/handler/svc/users" ∧ plan.data.handlerName = "ListHandler") = true :=
    Except.any_toOption_iff.1 (by decide +kernel)
  obtain ⟨segments, hlaid, -⟩ := PlacedGroup.handlerPlan_laidOut hplan
  have hsegments : segments = ["svc", "users"] := by
    apply List.map_injective_iff.2 fun _ _ => String.toList_injective
    rw [← Naming.cutsAtSlashes_iff.1 hlaid.source]
    decide +kernel
  subst hsegments
  exact ⟨plan, hplan, hlaid, of_decide_eq_true hfolder⟩

end RouteScaffold
