import RouteScaffold.Proofs.Authorization.Agreement
import RouteScaffold.Proofs.Plan.Acceptance

/-!
# Rows of the policy table

The names and the scopes of a table are joined from the key of a subject, a mark and what the row grants.
No check of a plan looks at them. They are distinct when the keys are, when no subject grants one thing
twice and when no key that begins with another one makes up for the difference.

The main statement is `policyRows_distinct_iff`.
-/

namespace RouteScaffold

/-- Subjects, each with a key and what its rows grant, get distinct joined names. -/
structure Separates (mark : String) (subjects : List (String × List String)) : Prop where
  keys : (subjects.map Prod.fst).Nodup
  grants : ∀ subject ∈ subjects, subject.2.Nodup
  between : ∀ subject ∈ subjects, ∀ other ∈ subjects, ∀ lead, lead ≠ "" →
    other.1 ++ mark = subject.1 ++ mark ++ lead →
      ∀ grant ∈ subject.2, ∀ grant' ∈ other.2, grant ≠ lead ++ grant'

section Joined

variable {mark : String} {subjects : List (String × List String)}

/-- Of two ways to write a text as two parts, one cuts later. -/
theorem append_eq_append_cases {s t s' t' : String} (h : s ++ t = s' ++ t') :
    ∃ lead, (s' = s ++ lead ∧ t = lead ++ t') ∨ (s = s' ++ lead ∧ t' = lead ++ t) := by
  have hchars : s.toList ++ t.toList = s'.toList ++ t'.toList := by
    rw [← String.toList_append, h, String.toList_append]
  rcases List.append_eq_append_iff.1 hchars with ⟨lead, hstart, hrest⟩ | ⟨lead, hstart, hrest⟩
  · refine ⟨.ofList lead, .inl ⟨?_, ?_⟩⟩ <;> apply String.toList_inj.1 <;> simp [*]
  · refine ⟨.ofList lead, .inr ⟨?_, ?_⟩⟩ <;> apply String.toList_inj.1 <;> simp [*]

theorem nodup_joined_iff {grant : String} (hgrant : ∀ subject ∈ subjects, grant ∈ subject.2) :
    (subjects.flatMap fun subject => subject.2.map (subject.1 ++ mark ++ ·)).Nodup ↔
      Separates mark subjects := by
  have hne : ∀ subject ∈ subjects, subject.2.map (subject.1 ++ mark ++ ·) ≠ [] := by
    intro subject hsubject
    exact List.ne_nil_of_mem (List.mem_map_of_mem (hgrant subject hsubject))
  have hgrants : ∀ subject : String × List String,
      (subject.2.map (subject.1 ++ mark ++ ·)).Nodup ↔ subject.2.Nodup := fun subject =>
    List.nodup_map_iff fun _ _ => (String.append_right_inj (subject.1 ++ mark)).1
  rw [List.nodup_flatMap_iff_disjoint hne]
  simp only [hgrants]
  constructor
  · rintro ⟨hsubjects, hnodup, hdisjoint⟩
    refine ⟨hsubjects.map_on fun subject hsubject other hother hkey => ?_, hnodup, ?_⟩
    · -- subjects with one key share the name of the grant that both have
      by_contra hne
      refine hdisjoint subject hsubject other hother hne
        (List.mem_map_of_mem (hgrant subject hsubject)) ?_
      rw [hkey]
      exact List.mem_map_of_mem (hgrant other hother)
    · intro subject hsubject other hother lead hlead hkey grant hmem grant' hmem' heq
      have hne : subject ≠ other := by
        rintro rfl
        have hempty : subject.1 ++ mark ++ "" = subject.1 ++ mark ++ lead :=
          String.append_empty.trans hkey
        exact hlead ((String.append_right_inj (subject.1 ++ mark)).1 hempty).symm
      refine hdisjoint subject hsubject other hother hne (List.mem_map_of_mem hmem) ?_
      rw [heq, ← String.append_assoc, ← hkey]
      exact List.mem_map_of_mem hmem'
  · intro h
    refine ⟨h.keys.of_map, h.grants, fun subject hsubject other hother hne name hname hname' => ?_⟩
    obtain ⟨grant, hmem, rfl⟩ := List.mem_map.1 hname
    obtain ⟨grant', hmem', heq⟩ := List.mem_map.1 hname'
    have hkeys : subject.1 ++ mark ≠ other.1 ++ mark := by
      intro hkey
      exact hne (List.inj_on_of_nodup_map h.keys hsubject hother
        ((String.append_left_inj mark).1 hkey))
    obtain ⟨lead, ⟨hkey, hrest⟩ | ⟨hkey, hrest⟩⟩ := append_eq_append_cases heq
    · have hlead : lead ≠ "" := by
        rintro rfl
        exact hkeys (hkey.trans String.append_empty)
      exact h.between other hother subject hsubject lead hlead hkey grant' hmem' grant hmem hrest
    · have hlead : lead ≠ "" := by
        rintro rfl
        exact hkeys (hkey.trans String.append_empty).symm
      exact h.between subject hsubject other hother lead hlead hkey grant hmem grant' hmem' hrest

end Joined

namespace RouteGraph

variable {graph : RouteGraph} {cfg : Config}

/-- The keys of the guarded groups with what their rows grant: `all` and the actions of the routes. -/
def grants (graph : RouteGraph) (cfg : Config) (all : String) : List (String × List String) :=
  (graph.guarded cfg).map fun guarded =>
    (guarded.subject.policyKey,
      all :: guarded.group.routes.map fun route => Naming.snakeCase route.base)

/-- A column of the table that is joined from keys and grants. -/
theorem nodup_column_iff {column : PolicyRow → String} {mark all : String}
    (hmanagement : ∀ key, column (.management key) = key ++ mark ++ all)
    (haction : ∀ key action, column (.action key action) = key ++ mark ++ action) :
    (((graph.guarded cfg).flatMap GuardedGroup.rowsAt).map column).Nodup ↔
      Separates mark (graph.grants cfg all) := by
  have hcolumn : ((graph.guarded cfg).flatMap GuardedGroup.rowsAt).map column =
      (graph.grants cfg all).flatMap fun subject => subject.2.map (subject.1 ++ mark ++ ·) := by
    rw [grants, List.map_flatMap, List.flatMap_map]
    simp only [GuardedGroup.rowsAt, GuardedGroup.rowAt, List.map_cons, List.map_map,
      Function.comp_def, hmanagement, haction]
  have hall : ∀ subject ∈ graph.grants cfg all, all ∈ subject.2 := by
    intro subject hsubject
    obtain ⟨guarded, -, rfl⟩ := List.mem_map.1 hsubject
    exact List.mem_cons_self
  rw [hcolumn, nodup_joined_iff hall]

/-- The rows of a planned table have distinct names exactly when underscores separate its keys and
actions, and distinct scopes exactly when double colons do. -/
theorem policyRows_distinct_iff {registry : TemplateRegistry} {engine : Template.Engine}
    {artifacts : List Artifact}
    (hplan : graph.plan cfg registry engine = .ok artifacts) (hauth : cfg.auth = true) :
    ∃ rows, graph.policyRows cfg = .ok rows ∧
      ((rows.map PolicyRow.name).Nodup ↔ Separates "_" (graph.grants cfg "management")) ∧
        ((rows.map PolicyRow.scope).Nodup ↔ Separates "::" (graph.grants cfg "*")) := by
  have hbases := ((plannable_of_plan hplan).allowsCatalog hauth).bases
  refine ⟨_, policyRows_eq_ok_iff.2 ⟨hbases, rfl⟩, nodup_column_iff ?_ ?_, nodup_column_iff ?_ ?_⟩
  · intro key
    rw [PolicyRow.management, String.append_assoc]
    rfl
  · exact fun _ _ => rfl
  · intro key
    rw [PolicyRow.management, String.append_assoc]
    rfl
  · exact fun _ _ => rfl

end RouteGraph

theorem usersGraph_policyRows_distinct_iff :
    ∃ artifacts rows, usersGraph.plan {} plainTemplates = .ok artifacts ∧
      usersGraph.policyRows {} = .ok rows ∧
        ((rows.map PolicyRow.name).Nodup ↔ Separates "_" (usersGraph.grants {} "management")) ∧
          ((rows.map PolicyRow.scope).Nodup ↔ Separates "::" (usersGraph.grants {} "*")) := by
  obtain ⟨artifacts, hplan⟩ := exists_plan_usersGraph
  obtain ⟨rows, hrows⟩ := RouteGraph.policyRows_distinct_iff hplan rfl
  exact ⟨artifacts, rows, hplan, hrows⟩

/-- A group with a route of the name that the management row has. -/
def managementGraph : RouteGraph where
  groups :=
    [{ annotations := .ofList [("group", "users")], routes := [{ handler := "managementHandler" }] }]

theorem managementGraph_names_collide :
    ∃ artifacts rows, managementGraph.plan {} plainTemplates = .ok artifacts ∧
      managementGraph.policyRows {} = .ok rows ∧ ¬ (rows.map PolicyRow.name).Nodup := by
  obtain ⟨artifacts, hplan⟩ : ∃ artifacts, managementGraph.plan {} plainTemplates = .ok artifacts :=
    Except.isOk_eq_true_iff.1 (by decide +kernel)
  obtain ⟨rows, hrows, hcollide⟩ : ∃ rows, managementGraph.policyRows {} = .ok rows ∧
      decide (¬ (rows.map PolicyRow.name).Nodup) = true :=
    Except.any_toOption_iff.1 (by decide +kernel)
  exact ⟨artifacts, rows, hplan, hrows, of_decide_eq_true hcollide⟩

end RouteScaffold
