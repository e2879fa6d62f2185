import RouteScaffold.Template.Tree
import RouteScaffold.Template.Value

/-!
Evaluating expressions and writing out templates.

Names are looked up from the innermost loop outwards. A loop also binds `loop`, which tells the
position of the current item.
-/

namespace RouteScaffold.Template

/-- The names in scope, innermost first. -/
abbrev Scope := List (String × Value)

def Scope.find (scope : Scope) (name : String) : Value :=
  Value.entry scope name

def Comparison.holds (op : Comparison) (order : Ordering) : Bool :=
  match op with
  | .eq => order == .eq
  | .ne => order != .eq
  | .lt => order == .lt
  | .le => order != .gt
  | .gt => order == .gt
  | .ge => order != .lt

def Expr.eval (scope : Scope) : Expr → Outcome Value
  | .var name => .ok (scope.find name)
  | .str s => .ok (.text s)
  | .int n => .ok (.int n)
  | .decimal text => .ok (.decimal text)
  | .bool b => .ok (.bool b)
  | .none => .ok .none
  | .field e name => do (← e.eval scope).field name
  | .item e index => do
    let v ← e.eval scope
    v.item (← index.eval scope)
  | .filter e _ => do
    let _ ← e.eval scope
    .error .unknownFilter
  | .not e => do
    let b ← (← e.eval scope).truth
    .ok (.bool !b)
  | .and left right => do
    let v ← left.eval scope
    if ← v.truth then right.eval scope else .ok v
  | .or left right => do
    let v ← left.eval scope
    if ← v.truth then .ok v else right.eval scope
  | .compare op left right => do
    let v ← left.eval scope
    let w ← right.eval scope
    .ok (.bool (op.holds (v.compare w)))
  | .cond e test otherwise => do
    if ← (← test.eval scope).truth then e.eval scope
    else
      match otherwise with
      | some e => e.eval scope
      | Option.none => .ok (.undefined true)

/-- What `loop` shows for the item at a position of a list of `length` items. -/
def loopState (position length : Nat) : Value :=
  .map
    [("first", .bool (position == 0)),
     ("index", .int (position + 1)),
     ("index0", .int position),
     ("last", .bool (position + 1 == length)),
     ("length", .int length),
     ("revindex", .int (length - position)),
     ("revindex0", .int (length - position - 1))]

/-- The scope of one turn of a loop. -/
def Scope.turn (scope : Scope) (name : String) (position length : Nat) (item : Value) : Scope :=
  (name, item) :: ("loop", loopState position length) :: scope

mutual
def Node.render (scope : Scope) : Node → Outcome String
  | .text s => .ok s
  | .output e => do (← e.eval scope).print
  | .branch test body otherwise => do
    if ← (← test.eval scope).truth then renderAll scope body else renderAll scope otherwise
  | .loop name collection body otherwise => do
    let items ← (← collection.eval scope).elements
    if items.isEmpty then renderAll scope otherwise
    else do
      let turns ← items.zipIdx.mapM fun (item, position) =>
        renderAll (scope.turn name position items.length item) body
      .ok (String.join turns)

def Node.renderAll (scope : Scope) : List Node → Outcome String
  | [] => .ok ""
  | node :: rest => do
    let s ← node.render scope
    let t ← renderAll scope rest
    .ok (s ++ t)
end

end RouteScaffold.Template
