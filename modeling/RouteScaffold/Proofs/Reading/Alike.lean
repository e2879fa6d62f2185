import Mathlib.Data.List.Forall2
import RouteScaffold.Failure
import RouteScaffold.Text.Blank

/-!
# Runs that end alike

Failures name groups and routes for the reader: by display names, by positions, by tokens as they were
written. Two runs end alike when both give results that correspond, or both fail and only such labels
tell their failures apart. `EndAlike` is closed under the ways in which steps are put together, so runs
that start from what reads the same can be compared step by step.
-/

namespace RouteScaffold

/-- The reference without the name of the group and without the blanks around the token. -/
def RouteRef.unlabelled (ref : RouteRef) : RouteRef :=
  { ref with group := "", handler := Text.trim ref.handler }

def Owner.unlabelled : Owner → Owner
  | .authInterface _ => .authInterface ""
  | .route ref => .route ref.unlabelled
  | owner => owner

/-- The failure with its labels taken off; its kind and all else that it reports stay. -/
def Failure.unlabelled : Failure → Failure
  | .namingResolution location fault => .namingResolution location.unlabelled fault
  | .duplicateIdentifier identifier first second =>
    .duplicateIdentifier identifier first.unlabelled second.unlabelled
  | .artifactCollision path first second =>
    .artifactCollision path first.unlabelled second.unlabelled
  | failure => failure

/-- Both runs succeed with related results, or both fail with failures that differ in labels only. -/
inductive EndAlike {α β : Type} (R : α → β → Prop) : Except Failure α → Except Failure β → Prop where
  | ok {a : α} {b : β} (h : R a b) : EndAlike R (.ok a) (.ok b)
  | error {failure other : Failure} (h : failure.unlabelled = other.unlabelled) :
      EndAlike R (.error failure) (.error other)

namespace EndAlike

variable {α β γ δ : Type} {R : α → β → Prop} {S : γ → δ → Prop}

theorem refl (x : Except Failure α) : EndAlike Eq x x := by
  cases x with
  | error failure => exact .error rfl
  | ok a => exact .ok rfl

theorem eq_ok {x y : Except Failure α} {a : α} (h : EndAlike Eq x y) (hx : x = .ok a) : y = .ok a := by
  subst hx
  cases h with
  | ok h => rw [h]

theorem bind {x : Except Failure α} {y : Except Failure β} {f : α → Except Failure γ}
    {g : β → Except Failure δ} (h : EndAlike R x y)
    (hnext : ∀ a b, R a b → EndAlike S (f a) (g b)) : EndAlike S (x >>= f) (y >>= g) := by
  cases h with
  | ok h => exact hnext _ _ h
  | error h => exact .error h

/-- The same for two runs that give one result. -/
theorem bind_eq {x y : Except Failure α} {f : α → Except Failure γ} {g : α → Except Failure δ}
    (h : EndAlike Eq x y) (hnext : ∀ a, EndAlike S (f a) (g a)) : EndAlike S (x >>= f) (y >>= g) := by
  refine h.bind fun a b hab => ?_
  rw [hab]
  exact hnext b

theorem map {x : Except Failure α} {y : Except Failure β} {f : α → γ} {g : β → δ}
    (h : EndAlike R x y) (hmap : ∀ a b, R a b → S (f a) (g b)) :
    EndAlike S (x.map f) (y.map g) := by
  cases h with
  | ok h => exact .ok (hmap _ _ h)
  | error h => exact .error h

theorem mapM {P : γ → δ → Prop} {f : γ → Except Failure α} {g : δ → Except Failure β}
    {xs : List γ} {ys : List δ} (h : List.Forall₂ P xs ys)
    (hstep : ∀ x y, P x y → EndAlike R (f x) (g y)) :
    EndAlike (List.Forall₂ R) (xs.mapM f) (ys.mapM g) := by
  induction h with
  | nil => exact .ok .nil
  | cons hxy _ ih =>
    rw [List.mapM_cons, List.mapM_cons]
    refine (hstep _ _ hxy).bind fun a b hab => ih.bind fun as bs habs => ?_
    exact .ok (.cons hab habs)

theorem mapM_eq {P : γ → δ → Prop} {f : γ → Except Failure α} {g : δ → Except Failure α}
    {xs : List γ} {ys : List δ} (h : List.Forall₂ P xs ys)
    (hstep : ∀ x y, P x y → EndAlike Eq (f x) (g y)) : EndAlike Eq (xs.mapM f) (ys.mapM g) := by
  have hwalk := EndAlike.mapM h hstep
  rwa [List.forall₂_eq_eq_eq] at hwalk

end EndAlike

/-! ### What was seen before -/

/-- Two records of what is taken: the same keys, with holders that differ in labels only. -/
def TakenAlike {κ ω : Type} [BEq κ] (unlabelled : ω → ω) (taken other : List (κ × ω)) : Prop :=
  ∀ key, (taken.lookup key).map unlabelled = (other.lookup key).map unlabelled

namespace TakenAlike

variable {κ ω : Type} [BEq κ] {unlabelled : ω → ω} {taken other : List (κ × ω)}

theorem nil : TakenAlike (κ := κ) unlabelled [] [] := fun _ => rfl

theorem cons (h : TakenAlike unlabelled taken other) (key : κ) {holder holder' : ω}
    (hholder : unlabelled holder = unlabelled holder') :
    TakenAlike unlabelled ((key, holder) :: taken) ((key, holder') :: other) := by
  intro sought
  rw [List.lookup_cons, List.lookup_cons]
  cases sought == key with
  | true => exact congrArg some hholder
  | false => exact h sought

/-- A key is free in both records or taken in both. -/
theorem lookup_cases (h : TakenAlike unlabelled taken other) (key : κ) :
    (taken.lookup key = none ∧ other.lookup key = none) ∨
      ∃ first first', taken.lookup key = some first ∧ other.lookup key = some first' ∧
        unlabelled first = unlabelled first' := by
  have hkey := h key
  cases htaken : taken.lookup key with
  | none =>
    rw [htaken, Option.map_none, eq_comm, Option.map_eq_none_iff] at hkey
    exact .inl ⟨rfl, hkey⟩
  | some first =>
    rw [htaken, Option.map_some, eq_comm, Option.map_eq_some_iff] at hkey
    obtain ⟨first', hother, hlabels⟩ := hkey
    exact .inr ⟨first, first', rfl, hother, hlabels.symm⟩

end TakenAlike

end RouteScaffold
