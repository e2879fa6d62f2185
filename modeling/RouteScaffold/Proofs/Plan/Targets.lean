import RouteScaffold.Proofs.Naming.Seams
import RouteScaffold.Proofs.Plan.Identifiers

/-!
# The logic that a handler calls

A handler constructs one type of one logic package. In a folder of its own it bears the same capital letter
as this type, so the paths of a plan keep the types apart. In the root folder it does not, and whether two
types meet there depends on the naming format.

The main statement is `nodup_logicTargets_iff`.
-/

namespace RouteScaffold

/-- The logic package that a handler imports, and the type that it constructs. -/
def HandlerPlan.logicTarget (plan : HandlerPlan) : Option String × String :=
  (plan.data.imports.head?, plan.data.logicType)

namespace Naming

variable {cfg : Config} {group other : Group} {route route' : Route}

theorem ne_nil_of_mem_nonemptySegments {s part : List Char} (h : part ∈ nonemptySegments s) :
    part ≠ [] := by
  have hne := (List.mem_filter.1 h).2
  simpa using hne

theorem ne_nil_of_mem_folderSegments {part : List Char} (h : part ∈ folderSegments group route cfg) :
    part ≠ [] := by
  unfold folderSegments at h
  split at h
  · exact ne_nil_of_mem_nonemptySegments h
  · cases h

theorem nonemptySegments_intercalate {parts : List (List Char)} (hslash : ∀ part ∈ parts, '/' ∉ part)
    (hne : ∀ part ∈ parts, part ≠ []) : nonemptySegments (['/'].intercalate parts) = parts := by
  by_cases hparts : parts = []
  · subst hparts
    rfl
  · unfold nonemptySegments
    rw [List.splitOn_intercalate '/' hslash hparts, List.filter_eq_self]
    intro part hpart
    simpa using hne part hpart

theorem nonemptySegments_folderBelow (root : String) :
    nonemptySegments (folderBelow root (folderSegments group route cfg)).toList =
      nonemptySegments root.toList ++ folderSegments group route cfg := by
  rw [folderBelow, String.toList_ofList, nonemptySegments_intercalate]
  · exact fun _ => notMem_of_mem_folderBelow root
  · intro part hpart
    rcases List.mem_append.1 hpart with hpart | hpart
    · exact ne_nil_of_mem_nonemptySegments hpart
    · exact ne_nil_of_mem_folderSegments hpart

theorem segment_of_mem_flatMap {parts : List String} {segment : List Char}
    (h : segment ∈ parts.flatMap fun part => nonemptySegments part.toList) : segment ≠ [] ∧ '/' ∉ segment := by
  obtain ⟨part, -, hpart⟩ := List.mem_flatMap.1 h
  exact ⟨ne_nil_of_mem_nonemptySegments hpart, notMem_of_mem_nonemptySegments hpart⟩

theorem nonemptySegments_joinPackages (parts : List String) :
    nonemptySegments (joinPackages parts).toList =
      parts.flatMap fun part => nonemptySegments part.toList := by
  rw [joinPackages, String.toList_ofList, nonemptySegments_intercalate]
  · exact fun _ hsegment => (segment_of_mem_flatMap hsegment).2
  · exact fun _ hsegment => (segment_of_mem_flatMap hsegment).1

/-- The root package takes nothing away from a path that is joined to it. -/
theorem nonemptySegments_eq_of_joinPackages_eq {root path path' : String}
    (h : joinPackages [root, path] = joinPackages [root, path']) :
    nonemptySegments path.toList = nonemptySegments path'.toList := by
  have hsegments := congrArg (fun package => nonemptySegments package.toList) h
  simp only [nonemptySegments_joinPackages, List.flatMap_cons, List.flatMap_nil, List.append_nil] at hsegments
  exact List.append_cancel_left hsegments

/-- Handlers that import one logic package stand in one folder. -/
theorem folderSegments_eq_of_joinPackages_eq
    (h : joinPackages [cfg.rootPackage, logicFolder group route cfg] =
      joinPackages [cfg.rootPackage, logicFolder other route' cfg]) :
    folderSegments group route cfg = folderSegments other route' cfg := by
  have hsegments := nonemptySegments_eq_of_joinPackages_eq h
  rw [logicFolder, logicFolder, nonemptySegments_folderBelow, nonemptySegments_folderBelow] at hsegments
  exact List.append_cancel_left hsegments

theorem handlerFolder_eq_handlerRoot_iff :
    handlerFolder group route cfg = handlerRoot ↔ folderSegments group route cfg = [] := by
  have hroot : folderBelow handlerRoot [] = handlerRoot := by decide +kernel
  unfold handlerFolder
  constructor
  · intro h
    have hsegments : nonemptySegments (folderBelow handlerRoot (folderSegments group route cfg)).toList =
        nonemptySegments handlerRoot.toList ++ folderSegments group route cfg :=
      nonemptySegments_folderBelow handlerRoot
    rw [h] at hsegments
    exact List.self_eq_append_right.1 hsegments
  · intro h
    rw [h, hroot]

variable {naming : NamingFormat} {base base' : String}

theorem path_handlerPlan_congr
    (hsegments : folderSegments group route cfg = folderSegments other route' cfg)
    (hstem : naming.apply (handlerIdent base (folderSegments group route cfg)) =
      naming.apply (handlerIdent base' (folderSegments other route' cfg))) :
    (handlerPlan cfg naming group route base).path =
      (handlerPlan cfg naming other route' base').path := by
  have hfolder : handlerFolder group route cfg = handlerFolder other route' cfg := by
    unfold handlerFolder
    rw [hsegments]
  change (Path.mk (handlerFolder group route cfg)).join ⟨_ ++ ".go"⟩ =
    (Path.mk (handlerFolder other route' cfg)).join ⟨_ ++ ".go"⟩
  rw [hfolder, hstem]

theorem logicTarget_eq_iff (h : route.HasBase) (h' : route'.HasBase) :
    (handlerPlan cfg naming group route route.base).logicTarget =
        (handlerPlan cfg naming other route' route'.base).logicTarget ↔
      folderSegments group route cfg = folderSegments other route' cfg ∧
        Text.title route.base = Text.title route'.base := by
  change (some (joinPackages [cfg.rootPackage, logicFolder group route cfg]),
      Text.title (route.base ++ "Logic")) =
    (some (joinPackages [cfg.rootPackage, logicFolder other route' cfg]),
      Text.title (route'.base ++ "Logic")) ↔ _
  rw [Prod.mk.injEq, Option.some.injEq, Text.title_append h.base_ne_nil,
    Text.title_append h'.base_ne_nil, String.append_left_inj]
  refine and_congr_left fun _ => ⟨folderSegments_eq_of_joinPackages_eq, fun hsegments => ?_⟩
  unfold logicFolder
  rw [hsegments]

/-- In a folder of its own a handler has the capital letter of its logic type. -/
theorem handlerIdent_eq_of_title_eq {segments : List (List Char)} (hsegments : segments ≠ [])
    (h : route.HasBase) (h' : route'.HasBase) (htitle : Text.title route.base = Text.title route'.base) :
    handlerIdent route.base segments = handlerIdent route'.base segments := by
  have hfolder : ¬ segments.isEmpty = true := by simpa using hsegments
  unfold handlerIdent handlerName
  rw [if_neg hfolder, if_neg hfolder, Text.title_append h.base_ne_nil,
    Text.title_append h'.base_ne_nil, htitle]

theorem apply_handlerIdent_eq_of_seamless (hnaming : naming.Seamless) (h : route.HasBase)
    (h' : route'.HasBase) (hascii : Text.IsAscii route.handler.toList)
    (hascii' : Text.IsAscii route'.handler.toList)
    (htitle : Text.title route.base = Text.title route'.base) :
    naming.apply (handlerIdent route.base []) = naming.apply (handlerIdent route'.base []) := by
  have hbase : Text.IsAscii route.base.toList := fun c hc => hascii c (h.mem_of_mem_base hc)
  have hbase' : Text.IsAscii route'.base.toList := fun c hc => hascii' c (h'.mem_of_mem_base hc)
  have hsuffix : Text.IsAscii "Handler".toList := by decide
  have htitles : Text.titleChars route.base.toList = Text.titleChars route'.base.toList := by
    rw [← Text.toList_title, ← Text.toList_title, htitle]
  change String.ofList (naming.applyChars (route.base ++ "Handler").toList) =
    String.ofList (naming.applyChars (route'.base ++ "Handler").toList)
  rw [String.toList_append, String.toList_append,
    applyChars_eq_of_seamless hnaming (hbase.append hsuffix) (hbase'.append hsuffix)]
  rw [List.map_append, List.map_append, Text.map_toLower_eq_of_titleChars_eq hbase hbase' htitles]

end Naming

namespace RouteGraph

variable {graph : RouteGraph} {cfg : Config} {naming : Naming.NamingFormat}

theorem exists_of_mem_plansAt (h : graph.Plannable cfg) {plan : HandlerPlan}
    (hplan : plan ∈ graph.plansAt cfg naming) :
    ∃ group ∈ graph.groups, ∃ route ∈ group.routes, route.HasBase ∧
      plan = Naming.handlerPlan cfg naming group route route.base := by
  revert plan
  rw [forall_mem_plansAt]
  intro group hgroup route hroute
  exact ⟨group, hgroup, route, hroute, h.bases group hgroup route hroute, rfl⟩

/-- Handlers that share a target stand in the root folder and call one method. -/
theorem call_eq_of_logicTarget_eq (h : graph.Plannable cfg) {plan other : HandlerPlan}
    (hmem : plan ∈ graph.plansAt cfg naming) (hother : other ∈ graph.plansAt cfg naming)
    (hplaces : ¬ plan.path.Same other.path) (htarget : plan.logicTarget = other.logicTarget) :
    (plan.folder = Naming.handlerRoot ∧ other.folder = Naming.handlerRoot) ∧
      plan.data.call = other.data.call := by
  obtain ⟨group, -, route, -, hbase, rfl⟩ := exists_of_mem_plansAt h hmem
  obtain ⟨group', -, route', -, hbase', rfl⟩ := exists_of_mem_plansAt h hother
  obtain ⟨hsegments, htitle⟩ := (Naming.logicTarget_eq_iff hbase hbase').1 htarget
  have hroot : Naming.folderSegments group route cfg = [] := by
    by_contra hfolder
    apply hplaces
    refine congrArg Path.components (Naming.path_handlerPlan_congr hsegments ?_)
    rw [← hsegments, Naming.handlerIdent_eq_of_title_eq hfolder hbase hbase' htitle]
  have hroot' : Naming.folderSegments group' route' cfg = [] := by rw [← hsegments, hroot]
  exact ⟨⟨Naming.handlerFolder_eq_handlerRoot_iff.2 hroot,
    Naming.handlerFolder_eq_handlerRoot_iff.2 hroot'⟩, htitle⟩

theorem logicTarget_eq_of_call_eq (h : graph.Plannable cfg) {plan other : HandlerPlan}
    (hmem : plan ∈ graph.plansAt cfg naming) (hother : other ∈ graph.plansAt cfg naming)
    (hfolder : plan.folder = Naming.handlerRoot) (hfolder' : other.folder = Naming.handlerRoot)
    (hcall : plan.data.call = other.data.call) : plan.logicTarget = other.logicTarget := by
  obtain ⟨group, -, route, -, hbase, rfl⟩ := exists_of_mem_plansAt h hmem
  obtain ⟨group', -, route', -, hbase', rfl⟩ := exists_of_mem_plansAt h hother
  refine (Naming.logicTarget_eq_iff hbase hbase').2 ⟨?_, hcall⟩
  rw [Naming.handlerFolder_eq_handlerRoot_iff.1 hfolder,
    Naming.handlerFolder_eq_handlerRoot_iff.1 hfolder']

/-- The names of the files keep the calls of the root folder apart if the format is seamless. -/
theorem call_ne_of_seamless (h : graph.Plannable cfg) (hnaming : naming.Seamless)
    (hascii : ∀ group ∈ graph.groups, ∀ route ∈ group.routes, Text.IsAscii route.handler.toList)
    {plan other : HandlerPlan} (hmem : plan ∈ graph.plansAt cfg naming)
    (hother : other ∈ graph.plansAt cfg naming) (hplaces : ¬ plan.path.Same other.path)
    (hfolder : plan.folder = Naming.handlerRoot) (hfolder' : other.folder = Naming.handlerRoot) :
    plan.data.call ≠ other.data.call := by
  intro hcall
  obtain ⟨group, hgroup, route, hroute, hbase, rfl⟩ := exists_of_mem_plansAt h hmem
  obtain ⟨group', hgroup', route', hroute', hbase', rfl⟩ := exists_of_mem_plansAt h hother
  have hroot := Naming.handlerFolder_eq_handlerRoot_iff.1 hfolder
  have hroot' := Naming.handlerFolder_eq_handlerRoot_iff.1 hfolder'
  apply hplaces
  refine congrArg Path.components (Naming.path_handlerPlan_congr (hroot.trans hroot'.symm) ?_)
  rw [hroot, hroot']
  exact Naming.apply_handlerIdent_eq_of_seamless hnaming hbase hbase' (hascii group hgroup route hroute)
    (hascii group' hgroup' route' hroute') hcall

/-- The handlers of a plan call different logic exactly when those of the root folder call different
methods. With ASCII tokens a seamless format, such as the default one, makes sure of it. -/
theorem nodup_logicTargets_iff {registry : TemplateRegistry} {engine : Template.Engine}
    {artifacts : List Artifact} (hplan : graph.plan cfg registry engine = .ok artifacts) :
    ∃ naming plans, cfg.naming = .ok naming ∧ graph.handlerPlans cfg naming = .ok plans ∧
      ((plans.map HandlerPlan.logicTarget).Nodup ↔
        ((plans.filter (·.folder == Naming.handlerRoot)).map (·.data.call)).Nodup) ∧
      (naming.Seamless →
        (∀ group ∈ graph.groups, ∀ route ∈ group.routes, Text.IsAscii route.handler.toList) →
          (plans.map HandlerPlan.logicTarget).Nodup) := by
  have h : graph.Plannable cfg := plannable_of_plan hplan
  obtain ⟨naming, hnaming, hplans, hplaces⟩ := exists_handlerPlans hplan
  have hcalls : ((graph.plansAt cfg naming).map HandlerPlan.logicTarget).Nodup ↔
      (((graph.plansAt cfg naming).filter (·.folder == Naming.handlerRoot)).map (·.data.call)).Nodup := by
    unfold List.Nodup
    rw [List.pairwise_map, List.pairwise_map, List.pairwise_filter]
    simp only [beq_iff_eq]
    constructor
    · intro htargets
      apply htargets.imp_of_mem
      intro plan other hmem hother hne hfolder hfolder' hcall
      exact hne (logicTarget_eq_of_call_eq h hmem hother hfolder hfolder' hcall)
    · intro hcalls
      apply (hplaces.and hcalls).imp_of_mem
      rintro plan other hmem hother ⟨hplace, hcall⟩ htarget
      obtain ⟨⟨hfolder, hfolder'⟩, hsame⟩ := call_eq_of_logicTarget_eq h hmem hother hplace htarget
      exact hcall hfolder hfolder' hsame
  refine ⟨naming, _, hnaming, hplans, hcalls, fun hseamless hascii => hcalls.2 ?_⟩
  unfold List.Nodup
  rw [List.pairwise_map, List.pairwise_filter]
  simp only [beq_iff_eq]
  apply hplaces.imp_of_mem
  intro plan other hmem hother hplace hfolder hfolder'
  exact call_ne_of_seamless h hseamless hascii hmem hother hplace hfolder hfolder'

end RouteGraph

theorem adminGraph_nodup_logicTargets :
    ∃ artifacts plans, adminGraph.plan adminConfig plainTemplates = .ok artifacts ∧
      adminGraph.handlerPlans adminConfig {} = .ok plans ∧
        ((plans.filter (·.folder == Naming.handlerRoot)).map (·.data.call)).Nodup ∧
          (plans.map HandlerPlan.logicTarget).Nodup := by
  obtain ⟨artifacts, hplan⟩ := exists_plan_adminGraph
  obtain ⟨naming, plans, hnaming, hplans, hcalls, hseamless⟩ :=
    RouteGraph.nodup_logicTargets_iff hplan
  have hdefault : adminConfig.naming = .ok {} := by decide +kernel
  rw [hdefault] at hnaming
  cases hnaming
  have htargets := hseamless (by decide) (by decide +kernel)
  exact ⟨artifacts, plans, hplan, hplans, hcalls.1 htargets, htargets⟩

/-- Routes with the given tokens, in one plain group. -/
def tokenGraph (tokens : List String) : RouteGraph where
  groups := [{ routes := tokens.map fun token => { handler := token } }]

/-- A joint between words tells the files of `aBC` and `ABC` apart, and lower case those of `ß` and `SS`;
their logic is the same. -/
theorem tokenGraph_logicTargets_collide :
    (∃ artifacts naming plans, (tokenGraph ["aBC", "ABC"]).plan { namingFormat := "go_zero" }
        plainTemplates = .ok artifacts ∧ Config.naming { namingFormat := "go_zero" } = .ok naming ∧
      (tokenGraph ["aBC", "ABC"]).handlerPlans { namingFormat := "go_zero" } naming = .ok plans ∧
        ¬ (plans.map HandlerPlan.logicTarget).Nodup) ∧
    ∃ artifacts plans, (tokenGraph ["ß", "SS"]).plan {} plainTemplates = .ok artifacts ∧
      (tokenGraph ["ß", "SS"]).handlerPlans {} {} = .ok plans ∧
        ¬ (plans.map HandlerPlan.logicTarget).Nodup := by
  constructor
  · obtain ⟨artifacts, hplan⟩ : ∃ artifacts, (tokenGraph ["aBC", "ABC"]).plan
        { namingFormat := "go_zero" } plainTemplates = .ok artifacts :=
      Except.isOk_eq_true_iff.1 (by decide +kernel)
    obtain ⟨naming, hnaming, hformat⟩ : ∃ naming,
        Config.naming { namingFormat := "go_zero" } = .ok naming ∧
          (naming == { separator := ['_'] }) = true :=
      Except.any_toOption_iff.1 (by decide +kernel)
    rw [beq_iff_eq] at hformat
    subst hformat
    obtain ⟨plans, hplans, hcollide⟩ : ∃ plans,
        (tokenGraph ["aBC", "ABC"]).handlerPlans { namingFormat := "go_zero" }
          { separator := ['_'] } = .ok plans ∧
          decide (¬ (plans.map HandlerPlan.logicTarget).Nodup) = true :=
      Except.any_toOption_iff.1 (by decide +kernel)
    exact ⟨artifacts, _, plans, hplan, hnaming, hplans, of_decide_eq_true hcollide⟩
  · obtain ⟨artifacts, hplan⟩ : ∃ artifacts,
        (tokenGraph ["ß", "SS"]).plan {} plainTemplates = .ok artifacts :=
      Except.isOk_eq_true_iff.1 (by decide +kernel)
    obtain ⟨plans, hplans, hcollide⟩ : ∃ plans,
        (tokenGraph ["ß", "SS"]).handlerPlans {} {} = .ok plans ∧
          decide (¬ (plans.map HandlerPlan.logicTarget).Nodup) = true :=
      Except.any_toOption_iff.1 (by decide +kernel)
    exact ⟨artifacts, plans, hplan, hplans, of_decide_eq_true hcollide⟩

end RouteScaffold
