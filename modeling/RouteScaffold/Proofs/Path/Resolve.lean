import RouteScaffold.Proofs.Path.Components

/-!
# Paths without their dots

Resolved by its spelling alone, a path drops every `.`, and every `..` together with the name before it.
A path without dots is resolved as it stands.
-/

namespace RouteScaffold

namespace Component

/-- One component further, from a place given by its components in reverse. There is nothing above the
root, and a `..` without a name before it stays. -/
def advance (above : List Component) : Component → List Component
  | .current => above
  | .parent =>
    match above with
    | .name _ :: rest => rest
    | [.root] => [.root]
    | _ => .parent :: above
  | component => component :: above

end Component

namespace Path

variable {path : Path}

/-- The components without `.` and, as far as names can be dropped for them, without `..`. -/
def resolved (path : Path) : List Component :=
  (path.components.foldl Component.advance []).reverse

theorem foldl_advance (above components : List Component) (hcurrent : .current ∉ components)
    (hparent : .parent ∉ components) :
    components.foldl Component.advance above = components.reverse ++ above := by
  induction components generalizing above with
  | nil => rfl
  | cons component rest ih =>
    rw [List.mem_cons, not_or] at hcurrent hparent
    have hstep : Component.advance above component = component :: above := by
      cases component with
      | root => rfl
      | current => exact absurd rfl hcurrent.1
      | parent => exact absurd rfl hparent.1
      | name text => rfl
    rw [List.foldl_cons, hstep, ih _ hcurrent.2 hparent.2, List.reverse_cons, List.append_assoc]
    rfl

theorem resolved_eq_components (hcurrent : .current ∉ path.components)
    (hparent : .parent ∉ path.components) : path.resolved = path.components := by
  rw [resolved, foldl_advance [] path.components hcurrent hparent, List.append_nil,
    List.reverse_reverse]

/-- The two paths lead to different places, and neither leads through the other. -/
def Apart (p q : Path) : Prop := ¬ p.resolved <+: q.resolved ∧ ¬ q.resolved <+: p.resolved

instance (p q : Path) : Decidable (p.Apart q) := inferInstanceAs (Decidable (_ ∧ _))

theorem Apart.symm {p q : Path} (h : p.Apart q) : q.Apart p := And.symm h

example : (Path.mk "a/./b/../c").resolved = [.name "a", .name "c"] := by decide +kernel
example : (Path.mk "a/../../b").resolved = [.parent, .name "b"] := by decide +kernel
example : (Path.mk "/../a").resolved = [.root, .name "a"] := by decide +kernel

end Path

end RouteScaffold
