import RouteScaffold.Proofs.Authorization.Agreement
import RouteScaffold.Proofs.Naming.SnakeKey
import RouteScaffold.Proofs.Naming.Subject

/-!
# Actions and subjects without a name

An annotation that spells no identifier guards nothing, so the subject of a row, a method or a denial always has
a name. A token is asked for a base, and the action is the snake spelling of this base. Both checks are made
before the spelling: a base of separators alone passes its check and spells no action.

The main statement is `actions_named_iff`.
-/

namespace RouteScaffold

namespace Naming

theorem snakeCase_eq_empty_iff {s : String} :
    snakeCase s = "" ↔ ∀ c ∈ s.toList, isSeparator c = true := by
  rw [snakeCase, String.ofList_eq_empty_iff, snakeChars_eq_nil_iff]

/-- A camel spelling has a snake spelling. -/
theorem snakeCase_camelCase_eq_empty_iff {s : String} :
    snakeCase (camelCase s) = "" ↔ camelCase s = "" := by
  rw [snakeCase_eq_empty_iff, toList_camelCase]
  constructor
  · intro h
    have hnil : camelChars s.toList = [] := by
      apply List.eq_nil_iff_forall_not_mem.2
      intro c hc
      have hkept := isSeparator_of_mem_camelChars hc
      rw [h c hc] at hkept
      cases hkept
    rw [camelCase, hnil]
  · intro h c hc
    rw [← toList_camelCase, h] at hc
    cases hc

end Naming

namespace Subject

theorem mem_of_mem_singular {raw : List Char} {c : Char} (h : c ∈ singular raw) : c ∈ raw := by
  unfold singular at h
  split at h
  · exact (List.dropLast_sublist raw).subset h
  · exact h

namespace Spelled

variable {subject : Subject}

theorem snake_ne_empty (h : subject.Spelled) : subject.snake ≠ "" := by
  have hident := h.ident_ne_empty
  rw [h.snake_eq]
  rw [h.ident_eq] at hident ⊢
  exact fun hempty => hident (Naming.snakeCase_camelCase_eq_empty_iff.1 hempty)

/-- The key is spelled from the annotation with its plural, which has the characters of the singular. -/
theorem policyKey_ne_empty (h : subject.Spelled) : subject.policyKey ≠ "" := by
  have hident := h.ident_ne_empty
  rw [h.policyKey_eq, Ne, Naming.snakeCase_eq_empty_iff]
  rw [h.ident_eq, Ne, Naming.camelCase_eq_empty_iff, String.toList_ofList] at hident
  exact fun hsep => hident fun c hc => hsep c (mem_of_mem_singular hc)

end Spelled

end Subject

theorem Group.subject?_eq_none_iff {group : Group} {cfg : Config} :
    group.subject? cfg = none ↔ ∀ raw, group.annotation? cfg.annotations.auth = some raw →
      ∀ c ∈ Subject.singular raw.toList, Naming.isSeparator c = true := by
  rw [subject?, Option.bind_eq_none_iff]
  exact forall₂_congr fun raw _ => Subject.ofRaw?_eq_none_iff

namespace GuardedGroup

/-- What the routes of the group do: the snake spellings of their bases. -/
def actions (guarded : GuardedGroup) : List String :=
  guarded.group.routes.map fun route => Naming.snakeCase route.base

theorem map_message_entries_denialGroupAt (guarded : GuardedGroup) (block : Nat) :
    (guarded.denialGroupAt block).entries.map DenialEntry.message =
      guarded.actions.map (denialMessage guarded.subject.snake) := by
  rw [denialGroupAt, actions, List.map_map, List.map_map, ← map_snd_numbered 0 guarded.group.routes,
    List.map_map]
  rfl

theorem empty_mem_actions_iff {guarded : GuardedGroup} :
    "" ∈ guarded.actions ↔
      ∃ route ∈ guarded.group.routes, ∀ c ∈ route.base.toList, Naming.isSeparator c = true := by
  rw [actions, List.mem_map]
  exact exists_congr fun route => and_congr_right fun _ => Naming.snakeCase_eq_empty_iff

end GuardedGroup

/-- The artifacts of a graph name its subjects and actions, each subject and each base with something in it. -/
structure RouteGraph.NamesActions (graph : RouteGraph) (cfg : Config) (groups : List DenialGroup)
    (rows : List PolicyRow) (methods : List (List AuthMethod)) : Prop where
  rows : rows = (graph.guarded cfg).flatMap fun guarded =>
    .management guarded.subject.policyKey :: guarded.actions.map (.action guarded.subject.policyKey)
  methods : (methods.map fun list => list.map fun method => (method.action, method.scope)) =
    (graph.guarded cfg).map fun guarded =>
      guarded.actions.map fun action => (action, guarded.subject.policyKey ++ "::" ++ action)
  messages : (groups.map fun group => group.entries.map DenialEntry.message) =
    (graph.guarded cfg).map fun guarded => guarded.actions.map (denialMessage guarded.subject.snake)
  subjects : ∀ guarded ∈ graph.guarded cfg,
    guarded.subject.policyKey ≠ "" ∧ guarded.subject.snake ≠ "" ∧ guarded.subject.ident ≠ ""
  bases : ∀ guarded ∈ graph.guarded cfg, ∀ route ∈ guarded.group.routes, route.base ≠ ""
  unguarded : ∀ placed ∈ graph.placed, placed.guarded? cfg = none ↔
    ∀ raw, placed.group.annotation? cfg.annotations.auth = some raw →
      ∀ c ∈ Subject.singular raw.toList, Naming.isSeparator c = true

namespace RouteGraph

variable {graph : RouteGraph} {cfg : Config} {groups : List DenialGroup} {rows : List PolicyRow}
  {methods : List (List AuthMethod)}

theorem namesActions (hgroups : graph.denialGroups cfg = .ok groups) (hrows : graph.policyRows cfg = .ok rows)
    (hmethods : (graph.guarded cfg).mapM (·.authMethods cfg) = .ok methods) :
    graph.NamesActions cfg groups rows methods where
  rows := by
    rw [(policyRows_eq_ok_iff.1 hrows).2]
    congr 1
    funext guarded
    rw [GuardedGroup.rowsAt, GuardedGroup.actions, List.map_map]
    rfl
  methods := by
    refine Except.map_eq_map_of_mapM_eq_ok (fun guarded list hlist => ?_) hmethods
    rw [(GuardedGroup.authMethods_eq_ok_iff.1 hlist).2.1, GuardedGroup.actions, List.map_map, List.map_map]
    rfl
  messages := by
    rw [(denialGroups_eq_ok_iff.1 hgroups).2, catalogAt, List.map_map]
    conv_rhs => rw [← List.zipIdx_map_fst 0 (graph.guarded cfg), List.map_map]
    exact List.map_congr_left fun p _ => p.1.map_message_entries_denialGroupAt p.2
  subjects := by
    intro guarded hguarded
    have hspelled := spelled_of_mem_guarded hguarded
    exact ⟨hspelled.policyKey_ne_empty, hspelled.snake_ne_empty, hspelled.ident_ne_empty⟩
  bases := by
    intro guarded hguarded route hroute
    have hbase := ((policyRows_eq_ok_iff.1 hrows).1 guarded hguarded route hroute).base_ne_nil
    rwa [Ne, String.toList_eq_nil_iff] at hbase
  unguarded := by
    intro placed _
    rw [PlacedGroup.guarded?, Option.map_eq_none_iff, Group.subject?_eq_none_iff]

/-- Rows, methods and denials name one subject and one action each. The subject is never empty and neither
is a base, but an action is exactly where a base has nothing between its separators. -/
theorem actions_named_iff (hgroups : graph.denialGroups cfg = .ok groups)
    (hrows : graph.policyRows cfg = .ok rows)
    (hmethods : (graph.guarded cfg).mapM (·.authMethods cfg) = .ok methods) :
    graph.NamesActions cfg groups rows methods ∧
      ((∀ guarded ∈ graph.guarded cfg, "" ∉ guarded.actions) ↔
        ∀ guarded ∈ graph.guarded cfg, ∀ route ∈ guarded.group.routes,
          ∃ c ∈ route.base.toList, Naming.isSeparator c = false) := by
  refine ⟨namesActions hgroups hrows hmethods, forall₂_congr fun guarded _ => ?_⟩
  rw [GuardedGroup.empty_mem_actions_iff]
  simp only [not_exists, not_and, not_forall, Bool.not_eq_true, exists_prop]

end RouteGraph

theorem usersGraph_actions_named :
    ∃ groups rows methods, usersGraph.denialGroups {} = .ok groups ∧ usersGraph.policyRows {} = .ok rows ∧
      (usersGraph.guarded {}).mapM (·.authMethods {}) = .ok methods ∧
        usersGraph.NamesActions {} groups rows methods ∧
          ∀ guarded ∈ usersGraph.guarded {}, "" ∉ guarded.actions := by
  obtain ⟨groups, hgroups⟩ : ∃ groups, usersGraph.denialGroups {} = .ok groups :=
    Except.isOk_eq_true_iff.1 (by decide +kernel)
  obtain ⟨rows, hrows⟩ : ∃ rows, usersGraph.policyRows {} = .ok rows :=
    Except.isOk_eq_true_iff.1 (by decide +kernel)
  obtain ⟨methods, hmethods⟩ : ∃ methods,
      (usersGraph.guarded {}).mapM (·.authMethods {}) = .ok methods :=
    Except.isOk_eq_true_iff.1 (by decide +kernel)
  have hkept : ((usersGraph.guarded {}).all fun guarded => guarded.group.routes.all fun route =>
      route.base.toList.any fun c => Naming.isSeparator c == false) = true := by
    decide +kernel
  simp only [List.all_eq_true, List.any_eq_true, beq_iff_eq] at hkept
  obtain ⟨hnames, hnamed⟩ := RouteGraph.actions_named_iff hgroups hrows hmethods
  exact ⟨groups, rows, methods, hgroups, hrows, hmethods, hnames, hnamed.2 hkept⟩

/-- A guarded group with a token that is a separator before its suffix. -/
def underscoreGraph : RouteGraph where
  groups := [{ annotations := .ofList [("group", "users")], routes := [{ handler := "_Handler" }] }]

theorem underscoreGraph_action_unnamed :
    ∃ groups rows methods, underscoreGraph.denialGroups {} = .ok groups ∧
      underscoreGraph.policyRows {} = .ok rows ∧
        (underscoreGraph.guarded {}).mapM (·.authMethods {}) = .ok methods ∧
          PolicyRow.action "users" "" ∈ rows ∧
            (∃ list ∈ methods, ∃ method ∈ list, method.action = "") ∧
              ∃ group ∈ groups, ∃ entry ∈ group.entries, entry.message = denialMessage "user" "" := by
  obtain ⟨groups, hgroups, hmessage⟩ : ∃ groups, underscoreGraph.denialGroups {} = .ok groups ∧
      decide (∃ group ∈ groups, ∃ entry ∈ group.entries,
        entry.message = denialMessage "user" "") = true :=
    Except.any_toOption_iff.1 (by decide +kernel)
  obtain ⟨rows, hrows, hrow⟩ : ∃ rows, underscoreGraph.policyRows {} = .ok rows ∧
      decide (PolicyRow.action "users" "" ∈ rows) = true :=
    Except.any_toOption_iff.1 (by decide +kernel)
  obtain ⟨methods, hmethods, hmethod⟩ : ∃ methods,
      (underscoreGraph.guarded {}).mapM (·.authMethods {}) = .ok methods ∧
        decide (∃ list ∈ methods, ∃ method ∈ list, method.action = "") = true :=
    Except.any_toOption_iff.1 (by decide +kernel)
  exact ⟨groups, rows, methods, hgroups, hrows, hmethods, of_decide_eq_true hrow,
    of_decide_eq_true hmethod, of_decide_eq_true hmessage⟩

end RouteScaffold
