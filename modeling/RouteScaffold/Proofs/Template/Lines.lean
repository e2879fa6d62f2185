import RouteScaffold.Proofs.Except
import RouteScaffold.Template.Render

/-!
# Templates that write whole lines

The parts of a template that begin and end with a line are put together line by line: parts in a row
write their lines one after the other, a branch those of the arm that is taken, a loop those of its
turns. `Node.Writes` says which lines a part writes; a value in a line stands there as it is, whatever
its characters.
-/

namespace List

variable {α β : Type}

theorem intercalate_cons_eq_append_flatMap (separator first : List β) (rest : List (List β)) :
    separator.intercalate (first :: rest) = first ++ rest.flatMap (separator ++ ·) := by
  induction rest generalizing first with
  | nil => rw [intercalate_singleton, flatMap_nil, append_nil]
  | cons second rest ih =>
    rw [intercalate_cons_cons, ih, flatMap_cons, append_assoc, append_assoc]

theorem flatMap_zipIdx_succ (separator : List β) (block : α → List β) (items : List α) (position : Nat) :
    ((items.zipIdx (position + 1)).flatMap fun p => (if p.2 = 0 then [] else separator) ++ block p.1) =
      items.flatMap fun item => separator ++ block item := by
  induction items generalizing position with
  | nil => rfl
  | cons item items ih =>
    rw [zipIdx_cons, flatMap_cons, flatMap_cons, ih, if_neg (Nat.succ_ne_zero position)]

/-- Blocks with a separator between two of them, as a walk that knows where it stands. -/
theorem intercalate_map_eq_flatMap_zipIdx (separator : List β) (block : α → List β) (items : List α) :
    separator.intercalate (items.map block) =
      items.zipIdx.flatMap fun p => (if p.2 = 0 then [] else separator) ++ block p.1 := by
  cases items with
  | nil => rfl
  | cons item items =>
    rw [map_cons, intercalate_cons_eq_append_flatMap, flatMap_map, zipIdx_cons, flatMap_cons,
      flatMap_zipIdx_succ, if_pos rfl, nil_append]

end List

namespace RouteScaffold.Template

/-- The lines as a text, a newline after each. -/
def unlines : List String → String
  | [] => ""
  | line :: lines => line ++ "\n" ++ unlines lines

@[simp] theorem unlines_nil : unlines [] = "" := rfl

@[simp] theorem unlines_cons (line : String) (lines : List String) :
    unlines (line :: lines) = line ++ "\n" ++ unlines lines := rfl

theorem unlines_append (lines others : List String) :
    unlines (lines ++ others) = unlines lines ++ unlines others := by
  induction lines with
  | nil => rw [List.nil_append, unlines_nil, String.empty_append]
  | cons line lines ih =>
    rw [List.cons_append, unlines_cons, unlines_cons, ih]
    exact String.append_assoc.symm

theorem join_map_unlines (blocks : List (List String)) :
    String.join (blocks.map unlines) = unlines blocks.flatten := by
  induction blocks with
  | nil => rfl
  | cons block blocks ih =>
    rw [List.map_cons, String.join_cons, ih, List.flatten_cons, unlines_append]

namespace Node

variable {scope : Scope} {nodes others body otherwise : List Node} {lines lines' : List String}

/-- In the given scope the nodes render as these lines. -/
def Writes (scope : Scope) (nodes : List Node) (lines : List String) : Prop :=
  renderAll scope nodes = .ok (unlines lines)

theorem renderAll_append {s t : String} (hs : renderAll scope nodes = .ok s)
    (ht : renderAll scope others = .ok t) : renderAll scope (nodes ++ others) = .ok (s ++ t) := by
  induction nodes generalizing s with
  | nil =>
    cases hs
    rwa [List.nil_append, String.empty_append]
  | cons node nodes ih =>
    rw [renderAll] at hs
    obtain ⟨first, hfirst, hs⟩ := Except.bind_eq_ok_iff.1 hs
    obtain ⟨rest, hrest, hs⟩ := Except.bind_eq_ok_iff.1 hs
    cases hs
    rw [List.cons_append, renderAll, hfirst, ih hrest, String.append_assoc]
    rfl

theorem Writes.append (h : Writes scope nodes lines) (h' : Writes scope others lines') :
    Writes scope (nodes ++ others) (lines ++ lines') := by
  unfold Writes
  rw [unlines_append]
  exact renderAll_append h h'

theorem renderAll_singleton (scope : Scope) (node : Node) :
    renderAll scope [node] = node.render scope := by
  rw [renderAll]
  cases node.render scope with
  | error fault => rfl
  | ok s => exact congrArg Except.ok String.append_empty

/-- A branch writes what the arm that is taken writes. -/
theorem writes_branch {test : Expr} {value : Value} {b : Bool} (htest : test.eval scope = .ok value)
    (htruth : value.truth = .ok b) (hbody : b = true → Writes scope body lines)
    (hotherwise : b = false → Writes scope otherwise lines') :
    Writes scope [.branch test body otherwise] (if b then lines else lines') := by
  unfold Writes
  rw [renderAll_singleton, render, htest, Except.ok_bind, htruth, Except.ok_bind]
  cases b with
  | true => exact hbody rfl
  | false => exact hotherwise rfl

/-- A loop over a list writes what its turns write, in the order of the items. -/
theorem writes_loop {name : String} {collection : Expr} {α : Type} {items : List α} {value : α → Value}
    {block : Nat → α → List String}
    (hitems : collection.eval scope = .ok (.list (items.map value)))
    (hbody : ∀ position item,
      Writes (scope.turn name position items.length (value item)) body (block position item)) :
    Writes scope [.loop name collection body []]
      (items.zipIdx.flatMap fun p => block p.2 p.1) := by
  have hturns : (items.map value).zipIdx.mapM (fun p =>
      renderAll (scope.turn name p.2 (items.map value).length p.1) body) =
        .ok ((items.zipIdx.map fun p => block p.2 p.1).map unlines) := by
    rw [List.zipIdx_map, Except.mapM_eq_ok_iff, List.map_map, List.forall₂_map_left_iff,
      List.forall₂_map_right_iff, List.forall₂_same, List.length_map]
    exact fun p _ => hbody p.2 p.1
  unfold Writes
  rw [renderAll_singleton, render, hitems, Except.ok_bind, Value.elements, Except.ok_bind, List.flatMap_def,
    ← join_map_unlines]
  split
  case isTrue hempty =>
    rw [List.isEmpty_iff, List.map_eq_nil_iff] at hempty
    rw [hempty]
    rfl
  case isFalse =>
    rw [hturns]
    rfl

/-- The same for a loop whose turns do not look at their position. -/
theorem writes_each {name : String} {collection : Expr} {α : Type} {items : List α} {value : α → Value}
    {block : α → List String} (hitems : collection.eval scope = .ok (.list (items.map value)))
    (hbody : ∀ position item,
      Writes (scope.turn name position items.length (value item)) body (block item)) :
    Writes scope [.loop name collection body []] (items.flatMap block) := by
  have hblocks : (items.zipIdx.flatMap fun p => block p.1) = items.flatMap block := by
    rw [← List.flatMap_map, List.zipIdx_map_fst]
  rw [← hblocks]
  exact writes_loop hitems hbody

end Node

end RouteScaffold.Template
