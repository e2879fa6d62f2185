import RouteScaffold.Proofs.Plan.Targets
import RouteScaffold.Proofs.Template.Files

/-!
# The packages that a handler file imports

Code refers to an imported package by the last segment of its path. All of these names but one are fixed in
a handler file; that of the logic package is the last segment of the folder of the handler, which an
annotation chooses freely.

The main statement is `nodup_localNames_iff`: the names are apart exactly when this segment is none of the
others.
-/

namespace RouteScaffold

open Naming

/-- The packages that every handler file imports, whatever its route. -/
def Template.BuiltIn.handlerPackages : List String :=
  ["net/http", "github.com/zeromicro/go-zero/rest/httpx"]

namespace HandlerData

/-- The packages that a handler file imports, in the order of its lines. -/
def packages (data : HandlerData) : List String :=
  Template.BuiltIn.handlerPackages ++ data.imports

/-- The names by which code refers to the imported packages. -/
def localNames (data : HandlerData) : List String :=
  data.packages.map leafSegment

/-- The names by which the code of the file refers to packages. -/
def qualifiers (data : HandlerData) : List String :=
  ["http", "httpx", data.logicPackage, "svc"] ++ if data.hasRequest then ["types"] else []

/-- A line refers to something in a package. -/
def Refers (line qualifier : String) : Prop :=
  ∃ before after, line = before ++ qualifier ++ "." ++ after

variable {data : HandlerData}

theorem importLine_mem_lines {package : String} (h : package ∈ data.packages) :
    importLine package ∈ data.lines := by
  unfold lines
  simp only [List.append_assoc]
  rcases List.mem_append.1 h with h | h
  · have hhead : ∀ package ∈ Template.BuiltIn.handlerPackages, importLine package ∈ data.headLines := by
      simp [Template.BuiltIn.handlerPackages, importLine, headLines]
    exact List.mem_append_left _ (hhead package h)
  · exact List.mem_append_right _ (List.mem_append_left _ (List.mem_map_of_mem h))

/-- The names in the code are no invention: there is a line for each of them. -/
theorem exists_line_of_mem_qualifiers {qualifier : String} (h : qualifier ∈ data.qualifiers) :
    ∃ line ∈ data.lines, Refers line qualifier := by
  have hsignature : ∀ line ∈ data.signatureLines, line ∈ data.lines := by
    intro line hline
    simp [lines, hline]
  have hrequest : ∀ line ∈ data.requestLines, line ∈ data.lines := by
    intro line hline
    simp [lines, hline]
  have hcall : ∀ line ∈ data.callLines, line ∈ data.lines := by
    intro line hline
    simp [lines, hline]
  simp only [qualifiers, List.cons_append, List.nil_append, List.mem_cons] at h
  obtain rfl | rfl | rfl | rfl | h := h
  · refine ⟨"\treturn func(w http.ResponseWriter, r *http.Request) \x7b", hsignature _ ?_, ?_⟩
    · simp [signatureLines]
    · exact ⟨"\treturn func(w ", "ResponseWriter, r *http.Request) \x7b", by decide⟩
  · refine ⟨"\t\t\thttpx.ErrorCtx(r.Context(), w, err)", hcall _ ?_, ?_⟩
    · simp [callLines]
    · exact ⟨"\t\t\t", "ErrorCtx(r.Context(), w, err)", by decide⟩
  · refine ⟨_, hcall _ List.mem_cons_self, "\t\tl := ", "New" ++ data.logicType ++ "(r.Context(), svcCtx)", ?_⟩
    have hnew : ".New" = "." ++ "New" := by decide
    rw [hnew]
    simp only [String.append_assoc]
  · refine ⟨_, hsignature _ List.mem_cons_self, "func " ++ data.handlerName ++ "(svcCtx *",
      "ServiceContext) http.HandlerFunc \x7b", ?_⟩
    have hcontext : "(svcCtx *svc.ServiceContext) http.HandlerFunc \x7b" =
        "(svcCtx *" ++ "svc" ++ "." ++ "ServiceContext) http.HandlerFunc \x7b" := by decide
    rw [hcontext]
    simp only [String.append_assoc]
  · split at h
    case isFalse => cases h
    case isTrue hdata =>
      obtain rfl := List.mem_singleton.1 h
      refine ⟨"\t\tvar req types." ++ data.requestType, hrequest _ ?_, "\t\tvar req ", data.requestType, ?_⟩
      · simp [requestLines, hdata]
      · have htypes : "\t\tvar req types." = "\t\tvar req " ++ "types" ++ "." := by decide
        rw [htypes]

end HandlerData

namespace Naming

variable {cfg : Config} {group : Group} {route : Route}

/-! ### The last segments of the import paths -/

theorem leafSegment_of_segments {parts : List (List Char)} (hslash : ∀ part ∈ parts, '/' ∉ part)
    (hne : parts ≠ []) : leafSegment (.ofList (['/'].intercalate parts)) = .ofList (parts.getLastD []) := by
  rw [leafSegment, String.toList_ofList, List.splitOn_intercalate '/' hslash hne]

/-- The name of a package below the root package, whatever the root package is. -/
theorem leafSegment_joinPackages {root : String} {path : String} (hne : nonemptySegments path.toList ≠ []) :
    leafSegment (joinPackages [root, path]) = .ofList ((nonemptySegments path.toList).getLastD []) := by
  unfold joinPackages
  rw [leafSegment_of_segments]
  · simp only [List.flatMap_cons, List.flatMap_nil, List.append_nil]
    rw [List.getLastD_eq_getLast?, List.getLast?_append_of_ne_nil _ hne, ← List.getLastD_eq_getLast?]
  · exact fun _ hsegment => (segment_of_mem_flatMap hsegment).2
  · simp [hne]

/-- A folder below a root is called by its own last segment, or by that of the root. -/
theorem getLastD_folderBelow (root : String) :
    (nonemptySegments root.toList ++ folderSegments group route cfg).getLastD [] =
      (folderSegments group route cfg).getLast?.getD ((nonemptySegments root.toList).getLastD []) := by
  rw [List.getLastD_eq_getLast?, List.getLast?_append, List.getLastD_eq_getLast?]
  cases (folderSegments group route cfg).getLast? <;> rfl

theorem leafSegment_folderBelow {root : String} (hroot : nonemptySegments root.toList ≠ []) :
    leafSegment (folderBelow root (folderSegments group route cfg)) =
      .ofList ((nonemptySegments root.toList ++ folderSegments group route cfg).getLastD []) :=
  leafSegment_of_segments (fun _ => notMem_of_mem_folderBelow root) (List.append_ne_nil_of_left_ne_nil hroot _)

theorem leafSegment_logicImport :
    leafSegment (joinPackages [cfg.rootPackage, logicFolder group route cfg]) =
      ((folderSegments group route cfg).getLast?.map String.ofList).getD defaultLogicPackage := by
  have hroot : nonemptySegments logicRoot.toList ≠ [] := by decide
  have hleaf : String.ofList ((nonemptySegments logicRoot.toList).getLastD []) = defaultLogicPackage := by
    decide
  have hsegments : nonemptySegments (folderBelow logicRoot (folderSegments group route cfg)).toList =
      nonemptySegments logicRoot.toList ++ folderSegments group route cfg :=
    nonemptySegments_folderBelow logicRoot
  unfold logicFolder
  rw [leafSegment_joinPackages (by simp [hsegments, hroot]), hsegments, getLastD_folderBelow]
  cases (folderSegments group route cfg).getLast? with
  | none => exact hleaf
  | some leaf => rfl

/-- The package that the code calls is the one that the file imports for it. -/
theorem logicPackage_handlerPlan (naming : NamingFormat) (base : String) :
    (handlerPlan cfg naming group route base).data.logicPackage =
      ((folderSegments group route cfg).getLast?.map String.ofList).getD defaultLogicPackage := by
  change (if (folderSegments group route cfg).isEmpty then defaultLogicPackage
    else leafSegment (handlerFolder group route cfg)) = _
  by_cases hempty : folderSegments group route cfg = []
  · rw [hempty]
    rfl
  · obtain ⟨leaf, hleaf⟩ : ∃ leaf, (folderSegments group route cfg).getLast? = some leaf :=
      ⟨_, List.getLast?_eq_some_getLast hempty⟩
    rw [if_neg (by simpa using hempty), handlerFolder, leafSegment_folderBelow (by decide), getLastD_folderBelow,
      hleaf]
    rfl

theorem hasRequest_handlerPlan (naming : NamingFormat) (base : String) :
    (handlerPlan cfg naming group route base).data.hasRequest = route.hasRequest := by
  simp only [handlerPlan]

theorem localNames_handlerPlan (naming : NamingFormat) (base : String) :
    (handlerPlan cfg naming group route base).data.localNames =
      (handlerPlan cfg naming group route base).data.qualifiers := by
  have hcontext : leafSegment (joinPackages [cfg.rootPackage, contextPackage]) = "svc" := by
    rw [leafSegment_joinPackages (by decide)]
    decide
  have htypes : leafSegment (joinPackages [cfg.rootPackage, typesPackage]) = "types" := by
    rw [leafSegment_joinPackages (by decide)]
    decide
  have hfixed : Template.BuiltIn.handlerPackages.map leafSegment = ["http", "httpx"] := by decide
  have himports : (handlerPlan cfg naming group route base).data.imports = handlerImports group route cfg := rfl
  unfold HandlerData.localNames HandlerData.packages HandlerData.qualifiers
  rw [List.map_append, hfixed, himports, hasRequest_handlerPlan, logicPackage_handlerPlan, handlerImports, List.map_append,
    List.map_cons, List.map_cons, leafSegment_logicImport, hcontext]
  cases route.hasRequest with
  | false => rfl
  | true =>
    rw [if_pos rfl, if_pos rfl, List.map_cons, htypes]
    rfl

end Naming

/-- The package names that the file of a route has besides that of its logic. -/
def Route.reservedNames (route : Route) : List String :=
  ["http", "httpx", "svc"] ++ if route.hasRequest then ["types"] else []

theorem HandlerData.nodup_qualifiers_iff {data : HandlerData} {route : Route}
    (h : data.hasRequest = route.hasRequest) :
    data.qualifiers.Nodup ↔ data.logicPackage ∉ route.reservedNames := by
  have hperm : data.qualifiers.Perm (data.logicPackage :: route.reservedNames) := by
    unfold qualifiers Route.reservedNames
    rw [h]
    exact @List.perm_middle String data.logicPackage ["http", "httpx"] _
  have hreserved : route.reservedNames.Nodup := by
    unfold Route.reservedNames
    cases route.hasRequest <;> decide
  rw [hperm.nodup_iff, List.nodup_cons]
  exact and_iff_left hreserved

/-- The names of the imported packages are the names that the code refers to, one for one. They are apart,
so that each stands for one import, exactly when the folder of the handler does not end in another of
them. -/
theorem PlacedGroup.nodup_localNames_iff {placed : PlacedGroup} {cfg : Config} {naming : NamingFormat}
    {routeIndex : Nat} {route : Route} {plan : HandlerPlan}
    (h : placed.handlerPlan cfg naming routeIndex route = .ok plan) :
    plan.data.localNames = plan.data.qualifiers ∧
      (∀ package ∈ plan.data.packages, importLine package ∈ plan.data.lines) ∧
      (∀ qualifier ∈ plan.data.qualifiers, ∃ line ∈ plan.data.lines, HandlerData.Refers line qualifier) ∧
      ((∀ qualifier ∈ plan.data.qualifiers, plan.data.localNames.count qualifier = 1) ↔
        plan.data.localNames.Nodup) ∧
      (plan.data.localNames.Nodup ↔
        ∀ leaf ∈ (folderSegments placed.group route cfg).getLast?,
          String.ofList leaf ∉ route.reservedNames) := by
  obtain ⟨-, rfl⟩ := handlerPlan_eq_ok_iff.1 h
  have hnames : (Naming.handlerPlan cfg naming placed.group route route.base).data.localNames =
      (Naming.handlerPlan cfg naming placed.group route route.base).data.qualifiers :=
    localNames_handlerPlan naming route.base
  refine ⟨hnames, fun _ => HandlerData.importLine_mem_lines, fun _ => HandlerData.exists_line_of_mem_qualifiers,
    ?_, ?_⟩
  · rw [hnames, List.nodup_iff_count_eq_one]
  · rw [hnames, HandlerData.nodup_qualifiers_iff (hasRequest_handlerPlan naming route.base),
      logicPackage_handlerPlan]
    cases (folderSegments placed.group route cfg).getLast? with
    | none =>
      have hdefault : defaultLogicPackage ∉ route.reservedNames := by
        unfold Route.reservedNames
        cases route.hasRequest <;> decide
      simp [hdefault]
    | some leaf => simp

def requestRoute : Route := { handler := "listHandler", requestType := "ListReq" }

/-- A group with one route, which has a request, in the given folder. -/
def requestGroup (folder : String) : PlacedGroup where
  index := 0
  group := { annotations := .ofList [("group", folder)], routes := [requestRoute] }

theorem requestGroup_nodup_localNames :
    ∃ plan, (requestGroup "svc/users").handlerPlan {} {} 0 requestRoute = .ok plan ∧
      plan.data.localNames = plan.data.qualifiers ∧ plan.data.localNames.Nodup := by
  obtain ⟨plan, hplan⟩ : ∃ plan, (requestGroup "svc/users").handlerPlan {} {} 0 requestRoute = .ok plan :=
    Except.isOk_eq_true_iff.1 (by decide +kernel)
  obtain ⟨hnames, -, -, -, hnodup⟩ := PlacedGroup.nodup_localNames_iff hplan
  exact ⟨plan, hplan, hnames, hnodup.2 (by decide +kernel)⟩

/-- A handler in a folder `svc` imports two packages of that name. -/
theorem requestGroup_localNames_collide :
    ∃ plan, (requestGroup "svc").handlerPlan {} {} 0 requestRoute = .ok plan ∧
      plan.data.localNames = ["http", "httpx", "svc", "svc", "types"] ∧ ¬ plan.data.localNames.Nodup := by
  have hcollide : ((requestGroup "svc").handlerPlan {} {} 0 requestRoute).toOption.any
      (fun plan => decide (plan.data.localNames = ["http", "httpx", "svc", "svc", "types"])) = true := by
    decide +kernel
  obtain ⟨plan, hplan, hnames⟩ := Except.any_toOption_iff.1 hcollide
  have hnames := of_decide_eq_true hnames
  refine ⟨plan, hplan, hnames, ?_⟩
  rw [hnames]
  decide

end RouteScaffold
