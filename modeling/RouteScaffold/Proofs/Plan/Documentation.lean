import RouteScaffold.Proofs.Reading.Plan
import RouteScaffold.Proofs.Template.Documentation

/-!
# Documentation stays in comments

Next to the plan of a graph stands the plan of the same graph without documentation. Both fail alike, or
both have the same files at the same paths, and the first has comment lines more. So nothing that a
documentation says gets out of the comments, and no file is named or made for what it says.

The main statement is `docs_stay_in_comments`.
-/

namespace RouteScaffold

open Template

def Route.undocumented (route : Route) : Route := { route with doc := "" }

def Group.undocumented (group : Group) : Group :=
  { group with routes := group.routes.map Route.undocumented }

def RouteGraph.undocumented (graph : RouteGraph) : RouteGraph where
  groups := graph.groups.map Group.undocumented

variable {cfg : Config} {naming : Naming.NamingFormat}

theorem Group.forall₂_undocumented {group other : Group} (h : group = other.undocumented) :
    List.Forall₂ (fun route route' => route = Route.undocumented route') group.routes other.routes := by
  rw [h, undocumented, List.forall₂_map_left_iff, List.forall₂_same]
  exact fun _ _ => rfl

theorem Group.guardsAlike_undocumented {group other : Group} (h : group = other.undocumented) :
    group.GuardsAlike cfg other where
  subject _ := by
    rw [h]
    rfl
  routes := by
    refine (forall₂_undocumented h).imp ?_
    rintro _ route rfl
    rfl

namespace Naming

variable (group : Group) (route : Route) (base : String)

/-- Without documentation a handler goes to the same place and is given the same, but for the comments. -/
theorem handlerPlan_undocumented :
    handlerPlan cfg naming group.undocumented route.undocumented base =
      (handlerPlan cfg naming group route base).undocumented := by
  have hsegments : folderSegments group.undocumented route.undocumented cfg =
      folderSegments group route cfg := rfl
  have himports : handlerImports group.undocumented route.undocumented cfg =
      handlerImports group route cfg := rfl
  have hdoc : route.undocumented.hasDoc = false := by
    change decide (Text.trim "" ≠ "") = false
    decide
  have hcomments : formatDoc route.undocumented.doc = "" := formatDoc_eq_empty_iff.2 hdoc
  have hrequest : route.undocumented.hasRequest = route.hasRequest := rfl
  have hresponse : route.undocumented.hasResponse = route.hasResponse := rfl
  have htype : route.undocumented.requestType = route.requestType := rfl
  simp only [handlerPlan, handlerFolder, HandlerPlan.undocumented, HandlerData.undocumented, hsegments, himports,
    hdoc, hcomments, hrequest, hresponse, htype]

theorem docCommented_handlerPlan : (handlerPlan cfg naming group route base).data.DocCommented := by
  intro hdoc comment hcomment
  simp only [handlerPlan] at hdoc hcomment
  obtain ⟨_, hline⟩ := exists_commentsOn hdoc hcomment
  exact hline.mark_prefix

end Naming

theorem Renderer.render_handler (plan : HandlerPlan) :
    Renderer.builtIn.render .handler BuiltIn.handlerName plan.path plan.data.scope =
      .ok ⟨.handler, plan.path, unlines plan.data.lines⟩ :=
  render_of_writes (text_builtIn_handler _) (Node.writes_handlerTree plan.data)

theorem PlacedGroup.emitHandler_undocumented {placed other : PlacedGroup}
    (h : placed.group = other.group.undocumented) (routeIndex : Nat) (route : Route) :
    EndAlike Artifact.AddsComments
      (placed.emitHandler cfg naming .builtIn routeIndex route.undocumented)
      (other.emitHandler cfg naming .builtIn routeIndex route) := by
  have hplan : EndAlike (fun plan plan' => plan = plan'.undocumented ∧ plan'.data.DocCommented)
      (placed.handlerPlan cfg naming routeIndex route.undocumented)
      (other.handlerPlan cfg naming routeIndex route) := by
    have htoken : route.undocumented.SameToken route := rfl
    refine (baseName_endAlike htoken placed other routeIndex).bind_eq fun base => .ok ⟨?_, ?_⟩
    · rw [h]
      exact Naming.handlerPlan_undocumented other.group route base
    · exact Naming.docCommented_handlerPlan other.group route base
  refine hplan.bind ?_
  rintro _ plan ⟨rfl, hdoc⟩
  rw [Renderer.render_handler, Renderer.render_handler]
  exact .ok (HandlerPlan.addsComments hdoc)

theorem planCorrespondence_undocumented :
    PlanCorrespondence cfg naming .builtIn (fun group group' => group = group'.undocumented)
      Artifact.AddsComments where
  refl := .refl
  path _ _ h := h.path
  guards _ _ := Group.guardsAlike_undocumented
  handlers placed placed' h := by
    refine PlacedGroup.planHandlers_endAlike (Group.forall₂_undocumented h) ?_ ?_
    · rintro _ route rfl
      rfl
    · rintro routeIndex _ route rfl
      exact PlacedGroup.emitHandler_undocumented h routeIndex route

theorem RouteGraph.plan_undocumented (graph : RouteGraph) (cfg : Config) :
    EndAlike (List.Forall₂ Artifact.AddsComments) (graph.undocumented.plan cfg .builtIn)
      (graph.plan cfg .builtIn) := by
  refine plan_corresponds (P := fun group group' => group = group'.undocumented) ?_ ?_
  · intro naming renderer hcompile
    rw [TemplateRegistry.compile_builtIn] at hcompile
    cases hcompile
    exact planCorrespondence_undocumented
  · rw [undocumented, List.forall₂_map_left_iff, List.forall₂_same]
    exact fun _ _ => rfl

/-- The documentation of a route is written as one comment line for each of its lines, if there is any, and
it adds nothing but comment lines to what is generated. -/
theorem RouteGraph.docs_stay_in_comments :
    (∀ route : Route, (formatDoc route.doc = "" ↔ route.hasDoc = false) ∧
      (route.hasDoc = true →
        List.Forall₂ CommentsOn ((Text.trimChars route.doc.toList).splitOn '\n')
          ((formatDoc route.doc).toList.splitOn '\n') ∧
        ∀ comment ∈ (formatDoc route.doc).toList.splitOn '\n', commentMark <+: comment ∧
          ∀ c, comment.getLast? = some c → Text.isBlank c = false)) ∧
      ∀ (graph : RouteGraph) (cfg : Config),
        EndAlike (List.Forall₂ Artifact.AddsComments) (graph.undocumented.plan cfg .builtIn)
          (graph.plan cfg .builtIn) := by
  refine ⟨fun route => ⟨formatDoc_eq_empty_iff, fun hdoc => ⟨forall₂_commentsOn_of_hasDoc hdoc, ?_⟩⟩,
    plan_undocumented⟩
  intro comment hcomment
  obtain ⟨line, hline⟩ := exists_commentsOn hdoc hcomment
  exact ⟨hline.mark_prefix, fun _ => hline.isBlank_last⟩

end RouteScaffold
