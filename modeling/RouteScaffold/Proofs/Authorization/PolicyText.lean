import RouteScaffold.Proofs.Authorization.Agreement
import RouteScaffold.Proofs.Naming.Subject
import RouteScaffold.Proofs.Naming.Words

/-!
# Reading the policy table back

The table has no quotes: a reader cuts it at newlines and each line at commas. Annotations and tokens come
into the rows with all their characters but the separators of words, so a comma or a newline in one of them
cuts a row in a place where it should not be cut, and nothing else does.

The main statement is `readTable_policyTable_iff`.
-/

namespace List

variable {α : Type} [BEq α] {a : α}

theorem length_splitOn (xs : List α) : (xs.splitOn a).length = xs.count a + 1 := by
  induction xs with
  | nil => rfl
  | cons x xs ih =>
    rw [splitOn_cons_eq_if_modifyHead, count_cons]
    split
    · rw [length_cons, ih]
    · rw [length_modifyHead, ih, Nat.add_zero]

variable [LawfulBEq α]

theorem count_intercalate_add_one {parts : List (List α)} (hne : parts ≠ []) :
    ([a].intercalate parts).count a + 1 = parts.flatten.count a + parts.length := by
  induction parts with
  | nil => exact absurd rfl hne
  | cons part rest ih =>
    cases rest with
    | nil => simp
    | cons next rest =>
      have hrest := ih (cons_ne_nil next rest)
      rw [intercalate_cons_cons, count_append, count_append, flatten_cons, count_append, length_cons,
        count_singleton_self]
      omega

/-- A joined list is cut into as many parts as were joined exactly when no part has the joint. -/
theorem length_splitOn_intercalate_iff {parts : List (List α)} (hne : parts ≠ []) :
    (([a].intercalate parts).splitOn a).length = parts.length ↔ ∀ part ∈ parts, a ∉ part := by
  have hcount : parts.flatten.count a = 0 ↔ ∀ part ∈ parts, a ∉ part := by
    rw [count_eq_zero, mem_flatten]
    simp only [not_exists, not_and]
  rw [length_splitOn, count_intercalate_add_one hne, ← hcount]
  omega

theorem getLast?_intercalate {α : Type} {separator : List α} {c : α} {parts : List (List α)}
    (hne : parts ≠ []) (h : ∀ part ∈ parts, part.getLast? = some c) :
    (separator.intercalate parts).getLast? = some c := by
  induction parts with
  | nil => exact absurd rfl hne
  | cons part rest ih =>
    obtain ⟨hpart, hrest⟩ := forall_mem_cons.1 h
    cases rest with
    | nil => rwa [intercalate_singleton]
    | cons next rest =>
      rw [intercalate_cons_cons, getLast?_append, ih (cons_ne_nil _ _) hrest]
      rfl

end List

namespace RouteScaffold

/-- The text has none of the characters that cut a table. -/
def Uncut (s : String) : Prop :=
  ',' ∉ s.toList ∧ '\n' ∉ s.toList

instance (s : String) : Decidable (Uncut s) :=
  inferInstanceAs (Decidable (_ ∧ _))

/-! ### Rows -/

namespace PolicyRow

/-- The fields that a reader of the row should get. -/
def record (row : PolicyRow) : List String := ["p", row.name, row.scope, "true"]

/-- The text without one blank at its start. -/
def dropBlank : List Char → List Char
  | ' ' :: rest => rest
  | field => field

/-- The fields of a line: it is cut at commas, and the blank after each comma is dropped. -/
def readRecord (line : List Char) : List String :=
  match line.splitOn ',' with
  | [] => []
  | first :: fields => String.ofList first :: fields.map fun field => String.ofList (dropBlank field)

/-- The records of a table, one for each line; an empty table has none. -/
def readTable (contents : String) : List (List String) :=
  if contents = "" then [] else (contents.toList.splitOn '\n').map readRecord

variable (row : PolicyRow)

/-- The parts of a row between its commas. -/
def parts : List (List Char) :=
  [['p'], ' ' :: row.name.toList, ' ' :: row.scope.toList, " true".toList]

theorem toList_text : row.text.toList = [','].intercalate row.parts := by
  simp [text, parts, List.intercalate]

theorem length_readRecord (line : List Char) :
    (readRecord line).length = (line.splitOn ',').length := by
  unfold readRecord
  cases line.splitOn ',' with
  | nil => rfl
  | cons first fields => rw [List.length_cons, List.length_cons, List.length_map]

theorem notMem_parts_iff {c : Char} (hc : c = ',' ∨ c = '\n') :
    (∀ part ∈ row.parts, c ∉ part) ↔ c ∉ row.name.toList ∧ c ∉ row.scope.toList := by
  rcases hc with rfl | rfl <;> simp [parts]

theorem readRecord_text_iff :
    readRecord row.text.toList = row.record ↔ ',' ∉ row.name.toList ∧ ',' ∉ row.scope.toList := by
  have hne : row.parts ≠ [] := List.cons_ne_nil _ _
  rw [toList_text, ← row.notMem_parts_iff (.inl rfl)]
  constructor
  · intro h
    have hlength := congrArg List.length h
    rw [length_readRecord] at hlength
    exact (List.length_splitOn_intercalate_iff hne).1 hlength
  · intro h
    rw [readRecord, List.splitOn_intercalate ',' h hne]
    simp [parts, record, dropBlank]

theorem newline_notMem_text_iff :
    '\n' ∉ row.text.toList ↔ '\n' ∉ row.name.toList ∧ '\n' ∉ row.scope.toList := by
  rw [← row.notMem_parts_iff (.inr rfl), toList_text, List.mem_intercalate_iff]
  simp

/-! ### Tables -/

theorem toList_table (rows : List PolicyRow) :
    (table rows).toList = ['\n'].intercalate (rows.map fun row => row.text.toList) := by
  rw [table, String.toList_intercalate, List.map_map]
  rfl

theorem getLast?_text (row : PolicyRow) : row.text.toList.getLast? = some 'e' := by
  rw [text, String.toList_append, List.getLast?_append]
  rfl

theorem getLast?_table {rows : List PolicyRow} (hne : rows ≠ []) :
    (table rows).toList.getLast? = some 'e' := by
  rw [toList_table]
  refine List.getLast?_intercalate (by simpa using hne) ?_
  exact List.forall_mem_map.2 fun row _ => row.getLast?_text

/-- The last row is not followed by a newline. -/
theorem getLast?_table_ne (rows : List PolicyRow) : (table rows).toList.getLast? ≠ some '\n' := by
  by_cases hrows : rows = []
  · subst hrows
    decide
  · rw [getLast?_table hrows]
    decide

theorem table_eq_empty_iff {rows : List PolicyRow} : table rows = "" ↔ rows = [] := by
  constructor
  · intro h
    by_contra hrows
    have hlast := getLast?_table hrows
    rw [h] at hlast
    cases hlast
  · rintro rfl
    rfl

theorem readTable_table_iff {rows : List PolicyRow} :
    readTable (table rows) = rows.map record ↔ ∀ row ∈ rows, Uncut row.name ∧ Uncut row.scope := by
  by_cases hrows : rows = []
  · subst hrows
    simp [readTable, table_eq_empty_iff]
  have hne : (rows.map fun row => row.text.toList) ≠ [] := by simpa using hrows
  rw [readTable, if_neg (mt table_eq_empty_iff.1 hrows), toList_table]
  constructor
  · intro h
    have hlength := congrArg List.length h
    rw [List.length_map, List.length_map] at hlength
    have hlines : ∀ row ∈ rows, '\n' ∉ row.text.toList := by
      have hcut := List.length_splitOn_intercalate_iff (a := '\n') hne
      rw [List.length_map] at hcut
      exact fun row hrow => hcut.1 hlength _ (List.mem_map_of_mem hrow)
    rw [List.splitOn_intercalate '\n' (List.forall_mem_map.2 hlines) hne, List.map_map,
      List.map_inj_left] at h
    intro row hrow
    obtain ⟨hname, hscope⟩ := row.readRecord_text_iff.1 (h row hrow)
    obtain ⟨hname', hscope'⟩ := row.newline_notMem_text_iff.1 (hlines row hrow)
    exact ⟨⟨hname, hname'⟩, hscope, hscope'⟩
  · intro h
    have hlines : ∀ row ∈ rows, '\n' ∉ row.text.toList := fun row hrow =>
      row.newline_notMem_text_iff.2 ⟨(h row hrow).1.2, (h row hrow).2.2⟩
    rw [List.splitOn_intercalate '\n' (List.forall_mem_map.2 hlines) hne, List.map_map,
      List.map_inj_left]
    exact fun row hrow => row.readRecord_text_iff.2 ⟨(h row hrow).1.1, (h row hrow).2.1⟩

end PolicyRow

/-! ### Graphs -/

theorem uncut_snakeCase_iff {s : String} : Uncut (Naming.snakeCase s) ↔ Uncut s := by
  unfold Uncut
  rw [Naming.toList_snakeCase, Naming.mem_snakeChars_iff (by decide) (by decide),
    Naming.mem_snakeChars_iff (by decide) (by decide)]

theorem uncut_append_iff {s t : String} : Uncut (s ++ t) ↔ Uncut s ∧ Uncut t := by
  unfold Uncut
  rw [String.toList_append, List.mem_append, List.mem_append, not_or, not_or]
  tauto

namespace PolicyRow

theorem uncut_management_iff {key : String} :
    Uncut (management key).name ∧ Uncut (management key).scope ↔ Uncut key := by
  have hmanagement : Uncut "_management" := by decide
  have hall : Uncut "::*" := by decide
  rw [management, uncut_append_iff, uncut_append_iff, and_iff_left hmanagement, and_iff_left hall, and_self]

theorem uncut_action_iff {key grant : String} :
    Uncut (action key grant).name ∧ Uncut (action key grant).scope ↔ Uncut key ∧ Uncut grant := by
  have hunderscore : Uncut "_" := by decide
  have hcolons : Uncut "::" := by decide
  rw [action, uncut_append_iff, uncut_append_iff, uncut_append_iff, uncut_append_iff,
    and_iff_left hunderscore, and_iff_left hcolons, and_self]

end PolicyRow

/-- The rows of a group can be read when its annotation and the bases of its routes can. -/
theorem GuardedGroup.uncut_rowsAt_iff {guarded : GuardedGroup} (hspelled : guarded.subject.Spelled) :
    (∀ row ∈ guarded.rowsAt, Uncut row.name ∧ Uncut row.scope) ↔
      Uncut guarded.subject.raw ∧ ∀ route ∈ guarded.group.routes, Uncut route.base := by
  rw [rowsAt, List.forall_mem_cons, List.forall_mem_map, PolicyRow.uncut_management_iff,
    hspelled.policyKey_eq, uncut_snakeCase_iff]
  refine and_congr_right fun hraw => forall₂_congr fun route _ => ?_
  rw [rowAt, PolicyRow.uncut_action_iff, hspelled.policyKey_eq, uncut_snakeCase_iff, uncut_snakeCase_iff,
    and_iff_right hraw]

/-- A policy table is empty when there are no rows. It reads back as its rows, in their order, exactly when
there is no comma and no newline in the annotations of the guarded groups and in the bases of their
routes. -/
theorem RouteGraph.readTable_policyTable_iff {graph : RouteGraph} {cfg : Config} {policy : Artifact}
    (h : graph.emitPolicyTable cfg = .ok policy) :
    ∃ rows, graph.policyRows cfg = .ok rows ∧ (policy.contents = "" ↔ rows = []) ∧
      (PolicyRow.readTable policy.contents = rows.map PolicyRow.record ↔
        ∀ guarded ∈ graph.guarded cfg,
          Uncut guarded.subject.raw ∧ ∀ route ∈ guarded.group.routes, Uncut route.base) := by
  obtain ⟨rows, hrows, hpolicy⟩ := Except.bind_eq_ok_iff.1 h
  cases hpolicy
  refine ⟨rows, hrows, PolicyRow.table_eq_empty_iff, PolicyRow.readTable_table_iff.trans ?_⟩
  rw [(policyRows_eq_ok_iff.1 hrows).2, List.forall_mem_flatMap]
  exact forall₂_congr fun guarded hguarded =>
    GuardedGroup.uncut_rowsAt_iff (spelled_of_mem_guarded hguarded)

theorem usersGraph_readTable_policyTable_iff :
    ∃ policy rows, usersGraph.emitPolicyTable {} = .ok policy ∧ usersGraph.policyRows {} = .ok rows ∧
      PolicyRow.readTable policy.contents = rows.map PolicyRow.record := by
  obtain ⟨policy, hpolicy⟩ : ∃ policy, usersGraph.emitPolicyTable {} = .ok policy :=
    Except.isOk_eq_true_iff.1 (by decide +kernel)
  obtain ⟨rows, hrows, -, hread⟩ := RouteGraph.readTable_policyTable_iff hpolicy
  exact ⟨policy, rows, hpolicy, hrows, hread.2 (by decide +kernel)⟩

/-- A group with a token that has a line of its own for the policy table. -/
def forgingGraph : RouteGraph where
  groups :=
    [{ annotations := .ofList [("group", "users")]
       routes := [{ handler := "list\np,root_management,root::*,true\np,view" }] }]

/-- The reader finds a row that grants everything on another subject. -/
theorem forgingGraph_table_misread :
    ∃ policy rows, forgingGraph.emitPolicyTable {} = .ok policy ∧ forgingGraph.policyRows {} = .ok rows ∧
      PolicyRow.readTable policy.contents ≠ rows.map PolicyRow.record ∧
        (PolicyRow.management "root").record ∈ PolicyRow.readTable policy.contents ∧
          (PolicyRow.management "root").record ∉ rows.map PolicyRow.record := by
  obtain ⟨rows, hrows, hmisread⟩ : ∃ rows, forgingGraph.policyRows {} = .ok rows ∧
      decide (PolicyRow.readTable (PolicyRow.table rows) ≠ rows.map PolicyRow.record ∧
        (PolicyRow.management "root").record ∈ PolicyRow.readTable (PolicyRow.table rows) ∧
          (PolicyRow.management "root").record ∉ rows.map PolicyRow.record) = true :=
    Except.any_toOption_iff.1 (by decide +kernel)
  exact ⟨_, rows, Except.bind_eq_ok_iff.2 ⟨rows, hrows, rfl⟩, hrows, of_decide_eq_true hmisread⟩

end RouteScaffold
