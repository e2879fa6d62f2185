import RouteScaffold.Proofs.Except
import RouteScaffold.Template.Render

/-!
# Shapes of template data

A template that is checked against the shape of its data renders for all data of that shape. The check
looks at names, fields and loops only, so it is run once for a template and never for its data.

The main statement is `Node.exists_renderAll`.
-/

namespace RouteScaffold.Template

inductive Shape where
  | text
  | bool
  | int
  | list (item : Shape)
  | map (fields : List (String × Shape))
  deriving Repr

inductive HasShape : Value → Shape → Prop where
  | text (s : String) : HasShape (.text s) .text
  | bool (b : Bool) : HasShape (.bool b) .bool
  | int (n : Int) : HasShape (.int n) .int
  | list {items : List Value} {shape : Shape} (h : ∀ item ∈ items, HasShape item shape) :
    HasShape (.list items) (.list shape)
  | map {entries : List (String × Value)} {fields : List (String × Shape)}
    (h : ∀ name shape, fields.lookup name = some shape →
      HasShape (Value.entry entries name) shape) :
    HasShape (.map entries) (.map fields)

/-- The shapes of the names in scope. -/
abbrev ScopeShape := List (String × Shape)

/-- Every name that has a shape is in scope with a value of that shape. -/
def Scope.Fits (scope : Scope) (shapes : ScopeShape) : Prop :=
  ∀ name shape, shapes.lookup name = some shape → HasShape (scope.find name) shape

theorem Scope.fits_nil (scope : Scope) : scope.Fits [] := by
  intro name shape h
  cases h

theorem Scope.Fits.cons {scope : Scope} {shapes : ScopeShape} {name : String} {value : Value}
    {shape : Shape} (hvalue : HasShape value shape) (h : scope.Fits shapes) :
    Scope.Fits ((name, value) :: scope) ((name, shape) :: shapes) := by
  intro key found hfound
  by_cases hkey : key = name
  · subst hkey
    rw [List.lookup_cons_self, Option.some.injEq] at hfound
    subst hfound
    unfold Scope.find Value.entry
    rw [List.lookup_cons_self]
    exact hvalue
  · have hne : (key == name) = false := beq_false_of_ne hkey
    rw [List.lookup_cons, hne] at hfound
    unfold Scope.find Value.entry
    rw [List.lookup_cons, hne]
    exact h key found hfound

/-- Entries under distinct names make a map of the shape that lists theirs. -/
theorem HasShape.map_of_fits {entries : List (String × Value)} {fields : ScopeShape}
    (h : Scope.Fits entries fields) : HasShape (.map entries) (.map fields) :=
  .map h

namespace HasShape

variable {value : Value} {shape : Shape}

theorem exists_truth (h : HasShape value shape) : ∃ b, value.truth = .ok b := by
  cases h <;> exact ⟨_, rfl⟩

theorem exists_print (h : HasShape value shape) : ∃ s, value.print = .ok s := by
  cases h <;> exact ⟨_, rfl⟩

theorem exists_elements (h : HasShape value (.list shape)) :
    ∃ items, value.elements = .ok items ∧ ∀ item ∈ items, HasShape item shape := by
  cases h with
  | list h => exact ⟨_, rfl, h⟩

theorem exists_field {fields : ScopeShape} {name : String} (h : HasShape value (.map fields))
    (hname : fields.lookup name = some shape) :
    ∃ v, value.field name = .ok v ∧ HasShape v shape := by
  cases h with
  | map h => exact ⟨_, rfl, h name shape hname⟩

end HasShape

namespace Expr

/-- The shape of an expression, for the expressions that have one. -/
def shape? (shapes : ScopeShape) : Expr → Option Shape
  | .var name => shapes.lookup name
  | .str _ => some .text
  | .int _ => some .int
  | .bool _ => some .bool
  | .field e name =>
    match e.shape? shapes with
    | some (.map fields) => fields.lookup name
    | _ => Option.none
  | .not e => (e.shape? shapes).map fun _ => .bool
  | .compare _ left right =>
    (left.shape? shapes).bind fun _ => (right.shape? shapes).map fun _ => .bool
  | .cond e test (some otherwise) =>
    match e.shape? shapes, test.shape? shapes, otherwise.shape? shapes with
    | some .text, some _, some .text => some .text
    | _, _, _ => Option.none
  | _ => Option.none

/-- An expression with a shape has a value, and the value has that shape. -/
theorem exists_eval {scope : Scope} {shapes : ScopeShape} (hscope : scope.Fits shapes) {e : Expr}
    {shape : Shape} (h : e.shape? shapes = some shape) :
    ∃ v, e.eval scope = .ok v ∧ HasShape v shape := by
  induction e using shape?.induct shapes generalizing shape with
  | case1 name =>
    rw [shape?] at h
    exact ⟨_, rfl, hscope name shape h⟩
  | case2 s =>
    cases h
    exact ⟨_, rfl, .text s⟩
  | case3 n =>
    cases h
    exact ⟨_, rfl, .int n⟩
  | case4 b =>
    cases h
    exact ⟨_, rfl, .bool b⟩
  | case5 e name fields he ih =>
    rw [shape?, he] at h
    obtain ⟨v, hv, hshape⟩ := ih he
    obtain ⟨w, hw, hfield⟩ := hshape.exists_field h
    exact ⟨w, by rw [eval, hv]; exact hw, hfield⟩
  | case6 e name he _ =>
    rw [shape?] at h
    split at h
    · exact absurd ‹_› (he _)
    · cases h
  | case7 e ih =>
    rw [shape?] at h
    obtain ⟨inner, he, rfl⟩ := Option.map_eq_some_iff.1 h
    obtain ⟨v, hv, hshape⟩ := ih he
    obtain ⟨b, hb⟩ := hshape.exists_truth
    refine ⟨_, ?_, .bool (!b)⟩
    rw [eval, hv, Except.ok_bind, hb]
    rfl
  | case8 op left right ihLeft ihRight =>
    rw [shape?] at h
    obtain ⟨first, hleft, h⟩ := Option.bind_eq_some_iff.1 h
    obtain ⟨second, hright, rfl⟩ := Option.map_eq_some_iff.1 h
    obtain ⟨v, hv, -⟩ := ihLeft hleft
    obtain ⟨w, hw, -⟩ := ihRight hright
    refine ⟨_, ?_, .bool (op.holds (v.compare w))⟩
    rw [eval, hv, hw]
    rfl
  | case9 e test otherwise tested hotherwise htest he ih ihTest ihOtherwise =>
    rw [shape?, he, htest, hotherwise] at h
    cases h
    obtain ⟨v, hv, hshape⟩ := ihTest htest
    obtain ⟨b, hb⟩ := hshape.exists_truth
    cases b with
    | true =>
      obtain ⟨w, hw, hw'⟩ := ih he
      refine ⟨w, ?_, hw'⟩
      rw [eval, hv, Except.ok_bind, hb]
      exact hw
    | false =>
      obtain ⟨w, hw, hw'⟩ := ihOtherwise hotherwise
      refine ⟨w, ?_, hw'⟩
      rw [eval, hv, Except.ok_bind, hb]
      exact hw
  | case10 e test otherwise hnone _ _ _ =>
    rw [shape?] at h
    split at h
    · exact (hnone _ ‹_› ‹_› ‹_›).elim
    · cases h
  | case11 e _ _ _ _ _ _ _ _ =>
    rw [shape?] at h
    · cases h
    all_goals assumption

end Expr

/-- What a loop says about its position. -/
def loopShape : Shape :=
  .map
    [("first", .bool), ("index", .int), ("index0", .int), ("last", .bool), ("length", .int),
     ("revindex", .int), ("revindex0", .int)]

theorem hasShape_loopState (position length : Nat) :
    HasShape (loopState position length) loopShape := by
  refine .map_of_fits ?_
  refine .cons (.bool _) (.cons (.int _) (.cons (.int _) (.cons (.bool _) (.cons (.int _) ?_))))
  exact .cons (.int _) (.cons (.int _) (Scope.fits_nil []))

theorem Scope.Fits.turn {scope : Scope} {shapes : ScopeShape} (h : scope.Fits shapes)
    {item : Value} {shape : Shape} (hitem : HasShape item shape) (name : String)
    (position length : Nat) :
    Scope.Fits (scope.turn name position length item)
      ((name, shape) :: ("loop", loopShape) :: shapes) :=
  .cons hitem (.cons (hasShape_loopState position length) h)

namespace Node

mutual
/-- Whether a node renders for all data of the given shape. -/
def check (shapes : ScopeShape) : Node → Bool
  | .text _ => true
  | .output e => (e.shape? shapes).isSome
  | .branch test body otherwise =>
    (test.shape? shapes).isSome && checkAll shapes body && checkAll shapes otherwise
  | .loop name collection body otherwise =>
    match collection.shape? shapes with
    | some (.list item) =>
      checkAll ((name, item) :: ("loop", loopShape) :: shapes) body && checkAll shapes otherwise
    | _ => false

def checkAll (shapes : ScopeShape) : List Node → Bool
  | [] => true
  | node :: rest => check shapes node && checkAll shapes rest
end

mutual
theorem exists_render {scope : Scope} {shapes : ScopeShape} (hscope : scope.Fits shapes) :
    ∀ node : Node, node.check shapes = true → ∃ s, node.render scope = .ok s
  | .text s, _ => ⟨s, rfl⟩
  | .output e, h => by
    rw [check] at h
    obtain ⟨shape, hshape⟩ := Option.isSome_iff_exists.1 h
    obtain ⟨v, hv, hvalue⟩ := e.exists_eval hscope hshape
    obtain ⟨s, hs⟩ := hvalue.exists_print
    refine ⟨s, ?_⟩
    rw [render, hv]
    exact hs
  | .branch test body otherwise, h => by
    rw [check, Bool.and_eq_true, Bool.and_eq_true] at h
    obtain ⟨⟨htest, hbody⟩, hotherwise⟩ := h
    obtain ⟨shape, hshape⟩ := Option.isSome_iff_exists.1 htest
    obtain ⟨v, hv, hvalue⟩ := test.exists_eval hscope hshape
    obtain ⟨b, hb⟩ := hvalue.exists_truth
    rw [render, hv, Except.ok_bind, hb, Except.ok_bind]
    cases b with
    | true => exact exists_renderAll hscope body hbody
    | false => exact exists_renderAll hscope otherwise hotherwise
  | .loop name collection body otherwise, h => by
    rw [check] at h
    split at h
    case h_2 => cases h
    case h_1 item hshape =>
      rw [Bool.and_eq_true] at h
      obtain ⟨v, hv, hvalue⟩ := collection.exists_eval hscope hshape
      obtain ⟨items, hitems, hall⟩ := hvalue.exists_elements
      rw [render, hv, Except.ok_bind, hitems, Except.ok_bind]
      split
      · exact exists_renderAll hscope otherwise h.2
      · have hturns : ∀ p ∈ items.zipIdx, ∃ s,
            renderAll (scope.turn name p.2 items.length p.1) body = .ok s := by
          intro p hp
          have hitem : HasShape p.1 item := hall p.1 (List.fst_mem_of_mem_zipIdx hp)
          exact exists_renderAll (hscope.turn hitem name p.2 items.length) body h.1
        obtain ⟨turns, hturns⟩ := Except.exists_mapM_eq_ok hturns
        rw [hturns]
        exact ⟨_, rfl⟩

theorem exists_renderAll {scope : Scope} {shapes : ScopeShape} (hscope : scope.Fits shapes) :
    ∀ nodes : List Node, checkAll shapes nodes = true → ∃ s, renderAll scope nodes = .ok s
  | [], _ => ⟨"", rfl⟩
  | node :: rest, h => by
    rw [checkAll, Bool.and_eq_true] at h
    obtain ⟨s, hs⟩ := exists_render hscope node h.1
    obtain ⟨t, ht⟩ := exists_renderAll hscope rest h.2
    refine ⟨s ++ t, ?_⟩
    rw [renderAll, hs, ht]
    rfl
end

end Node

end RouteScaffold.Template
