import Mathlib.Data.List.Forall2

/-!
# Success of checked computations

A chain of checked steps succeeds exactly when every step does; a list of them, element by element.
-/

namespace Except

variable {ε α β : Type}

@[simp] theorem ok_bind (a : α) (f : α → Except ε β) : (.ok a >>= f) = f a := rfl

theorem bind_eq_ok_iff {x : Except ε α} {f : α → Except ε β} {b : β} :
    x >>= f = .ok b ↔ ∃ a, x = .ok a ∧ f a = .ok b := by
  cases x with
  | error e =>
    constructor
    · intro h
      cases h
    · rintro ⟨_, h, _⟩
      cases h
  | ok a =>
    constructor
    · exact fun h => ⟨a, rfl, h⟩
    · rintro ⟨_, h, hb⟩
      cases h
      exact hb

theorem map_eq_ok_iff {x : Except ε α} {f : α → β} {b : β} :
    x.map f = .ok b ↔ ∃ a, x = .ok a ∧ f a = b := by
  cases x with
  | error e =>
    constructor
    · intro h
      cases h
    · rintro ⟨_, h, _⟩
      cases h
  | ok a =>
    constructor
    · intro h
      cases h
      exact ⟨a, rfl, rfl⟩
    · rintro ⟨_, h, rfl⟩
      cases h
      rfl

theorem isOk_eq_true_iff {x : Except ε α} : x.isOk = true ↔ ∃ a, x = .ok a := by
  cases x with
  | error e => simp [Except.isOk, Except.toBool]
  | ok a => simp [Except.isOk, Except.toBool]

theorem any_toOption_iff {x : Except ε α} {p : α → Bool} :
    x.toOption.any p = true ↔ ∃ a, x = .ok a ∧ p a = true := by
  cases x with
  | error e => simp [Except.toOption]
  | ok a => simp [Except.toOption]

theorem mapM_eq_ok_iff {f : α → Except ε β} {xs : List α} {ys : List β} :
    xs.mapM f = .ok ys ↔ List.Forall₂ (fun x y => f x = .ok y) xs ys := by
  induction xs generalizing ys with
  | nil =>
    rw [List.mapM_nil, List.forall₂_nil_left_iff]
    constructor
    · intro h
      cases h
      rfl
    · rintro rfl
      rfl
  | cons x xs ih =>
    rw [List.mapM_cons, bind_eq_ok_iff, List.forall₂_cons_left_iff]
    constructor
    · rintro ⟨y, hy, h⟩
      obtain ⟨rest, hrest, h⟩ := bind_eq_ok_iff.1 h
      cases h
      exact ⟨y, rest, hy, ih.1 hrest, rfl⟩
    · rintro ⟨y, rest, hy, hrest, rfl⟩
      exact ⟨y, hy, bind_eq_ok_iff.2 ⟨rest, ih.2 hrest, rfl⟩⟩

/-- When each step has a known result, so has the whole list. -/
theorem mapM_eq_ok_map {f : α → Except ε β} {g : α → β} {xs : List α}
    (h : ∀ x ∈ xs, f x = .ok (g x)) : xs.mapM f = .ok (xs.map g) := by
  rw [mapM_eq_ok_iff, List.forall₂_map_right_iff, List.forall₂_same]
  exact h

/-- No step of a list that succeeds fails. -/
theorem exists_ok_of_mapM_eq_ok {f : α → Except ε β} {xs : List α} {ys : List β}
    (h : xs.mapM f = .ok ys) {x : α} (hx : x ∈ xs) : ∃ y, f x = .ok y := by
  rw [mapM_eq_ok_iff] at h
  induction h with
  | nil => cases hx
  | cons hy _ ih =>
    rcases List.mem_cons.1 hx with rfl | hx
    · exact ⟨_, hy⟩
    · exact ih hx

/-- Results may be changed one by one or all at the end. -/
theorem mapM_map_eq {γ : Type} (f : α → Except ε β) (g : β → γ) (xs : List α) :
    xs.mapM (fun x => (f x).map g) = (xs.mapM f).map (List.map g) := by
  induction xs with
  | nil => rfl
  | cons x xs ih =>
    rw [List.mapM_cons, List.mapM_cons, ih]
    cases f x with
    | error e => rfl
    | ok y => cases xs.mapM f <;> rfl

/-- What is known of every result is known of the list of results. -/
theorem map_eq_map_of_mapM_eq_ok {γ : Type} {f : α → Except ε β} {g : α → γ} {k : β → γ}
    (h : ∀ x y, f x = .ok y → k y = g x) {xs : List α} {ys : List β} (hys : xs.mapM f = .ok ys) :
    ys.map k = xs.map g := by
  rw [mapM_eq_ok_iff] at hys
  induction hys with
  | nil => rfl
  | cons hy _ ih => rw [List.map_cons, List.map_cons, h _ _ hy, ih]

theorem exists_mapM_eq_ok {f : α → Except ε β} {xs : List α} (h : ∀ x ∈ xs, ∃ y, f x = .ok y) :
    ∃ ys, xs.mapM f = .ok ys := by
  induction xs with
  | nil => exact ⟨[], rfl⟩
  | cons x xs ih =>
    obtain ⟨hx, hxs⟩ := List.forall_mem_cons.1 h
    obtain ⟨y, hy⟩ := hx
    obtain ⟨ys, hys⟩ := ih hxs
    refine ⟨y :: ys, ?_⟩
    rw [List.mapM_cons, hy, hys]
    rfl

/-- Steps that succeed under a condition, each with a known result, make such a list. -/
theorem mapM_eq_ok_iff_forall {f : α → Except ε β} {P : α → Prop} {g : α → β}
    (h : ∀ x y, f x = .ok y ↔ P x ∧ y = g x) {xs : List α} {ys : List β} :
    xs.mapM f = .ok ys ↔ (∀ x ∈ xs, P x) ∧ ys = xs.map g := by
  constructor
  · intro hys
    have hall : ∀ x ∈ xs, P x := by
      intro x hx
      obtain ⟨y, hy⟩ := exists_ok_of_mapM_eq_ok hys hx
      exact ((h x y).1 hy).1
    have hmap : xs.mapM f = .ok (xs.map g) :=
      mapM_eq_ok_map fun x hx => (h x (g x)).2 ⟨hall x hx, rfl⟩
    rw [hys] at hmap
    exact ⟨hall, Except.ok.inj hmap⟩
  · rintro ⟨hall, rfl⟩
    exact mapM_eq_ok_map fun x hx => (h x (g x)).2 ⟨hall x hx, rfl⟩

/-- The same for steps that give a list each, put end to end. -/
theorem mapM_flatten_eq_ok_iff {f : α → Except ε (List β)} {P : α → Prop} {g : α → List β}
    (h : ∀ x block, f x = .ok block ↔ P x ∧ block = g x) {xs : List α} {ys : List β} :
    (xs.mapM f >>= fun blocks => .ok blocks.flatten) = .ok ys ↔ (∀ x ∈ xs, P x) ∧ ys = xs.flatMap g := by
  rw [bind_eq_ok_iff, List.flatMap_def]
  constructor
  · rintro ⟨blocks, hblocks, hys⟩
    cases hys
    obtain ⟨hall, rfl⟩ := (mapM_eq_ok_iff_forall h).1 hblocks
    exact ⟨hall, rfl⟩
  · rintro ⟨hall, rfl⟩
    exact ⟨_, (mapM_eq_ok_iff_forall h).2 ⟨hall, rfl⟩, rfl⟩

/-! ### Failures -/

theorem bind_eq_error_iff {x : Except ε α} {f : α → Except ε β} {e : ε} :
    x >>= f = .error e ↔ x = .error e ∨ ∃ a, x = .ok a ∧ f a = .error e := by
  cases x with
  | error e' =>
    constructor
    · intro h
      cases h
      exact .inl rfl
    · rintro (h | ⟨_, h, _⟩)
      · cases h
        rfl
      · cases h
  | ok a =>
    constructor
    · exact fun h => .inr ⟨a, rfl, h⟩
    · rintro (h | ⟨_, h, he⟩)
      · cases h
      · cases h
        exact he

theorem exists_eq_ok_iff {x : Except ε α} : (∃ a, x = .ok a) ↔ ∀ e, x ≠ .error e := by
  cases x with
  | error e => simp
  | ok a => simp

/-- A list of steps fails with what its first failing step fails with. -/
theorem mapM_eq_error_iff {f : α → Except ε β} {xs : List α} {e : ε} :
    xs.mapM f = .error e ↔ ∃ before x after, xs = before ++ x :: after ∧
      (∀ y ∈ before, ∃ b, f y = .ok b) ∧ f x = .error e := by
  induction xs with
  | nil =>
    constructor
    · intro h
      cases h
    · rintro ⟨before, x, after, h, -⟩
      cases before <;> cases h
  | cons y ys ih =>
    rw [List.mapM_cons, bind_eq_error_iff]
    constructor
    · rintro (hy | ⟨b, hy, h⟩)
      · exact ⟨[], y, ys, rfl, fun _ h => absurd h List.not_mem_nil, hy⟩
      · obtain h | ⟨_, _, h⟩ := bind_eq_error_iff.1 h
        · obtain ⟨before, x, after, rfl, hbefore, hx⟩ := ih.1 h
          exact ⟨y :: before, x, after, rfl, List.forall_mem_cons.2 ⟨⟨b, hy⟩, hbefore⟩, hx⟩
        · cases h
    · rintro ⟨before, x, after, h, hbefore, hx⟩
      cases before with
      | nil =>
        cases h
        exact .inl hx
      | cons z before =>
        cases h
        obtain ⟨⟨b, hb⟩, hbefore⟩ := List.forall_mem_cons.1 hbefore
        have hrest := ih.2 ⟨before, x, after, rfl, hbefore, hx⟩
        exact .inr ⟨b, hb, bind_eq_error_iff.2 (.inl hrest)⟩

theorem exists_mapM_eq_error_iff {f : α → Except ε β} {xs : List α} :
    (∃ e, xs.mapM f = .error e) ↔ ∃ x ∈ xs, ∃ e, f x = .error e := by
  constructor
  · rintro ⟨e, h⟩
    obtain ⟨before, x, after, rfl, -, hx⟩ := mapM_eq_error_iff.1 h
    exact ⟨x, by simp, e, hx⟩
  · rintro ⟨x, hx, e, he⟩
    by_contra hnone
    obtain ⟨ys, hys⟩ := exists_eq_ok_iff.2 (not_exists.1 hnone)
    obtain ⟨y, hy⟩ := exists_ok_of_mapM_eq_ok hys hx
    rw [he] at hy
    cases hy

/-- Two lists of steps fail with the same when step for step they do. -/
theorem mapM_eq_error_congr {γ : Type} {f : α → Except ε β} {g : α → Except ε γ} {xs : List α}
    (h : ∀ x ∈ xs, ∀ e, f x = .error e ↔ g x = .error e) {e : ε} :
    xs.mapM f = .error e ↔ xs.mapM g = .error e := by
  rw [mapM_eq_error_iff, mapM_eq_error_iff]
  refine exists_congr fun before => exists_congr fun x => exists_congr fun after =>
    and_congr_right fun hxs => ?_
  subst hxs
  refine and_congr (forall₂_congr fun y hy => ?_) (h x (by simp) e)
  rw [exists_eq_ok_iff, exists_eq_ok_iff]
  exact forall_congr' fun e => not_congr (h y (List.mem_append_left _ hy) e)

/-- Whatever the computation fails with has the property. -/
def FailsWith (P : ε → Prop) (x : Except ε α) : Prop :=
  ∀ e, x = .error e → P e

namespace FailsWith

variable {P Q : ε → Prop} {x : Except ε α}

theorem ok (a : α) : FailsWith P (.ok a) := by
  intro e h
  cases h

theorem error {e : ε} (h : P e) : FailsWith P (.error e : Except ε α) := by
  intro e' he
  cases he
  exact h

theorem imp (h : FailsWith P x) (hPQ : ∀ e, P e → Q e) : FailsWith Q x :=
  fun e he => hPQ e (h e he)

theorem bind {f : α → Except ε β} (hx : FailsWith P x) (hf : ∀ a, x = .ok a → FailsWith P (f a)) :
    FailsWith P (x >>= f) := by
  cases x with
  | error e => exact error (hx e rfl)
  | ok a => exact hf a rfl

theorem map (hx : FailsWith P x) (f : α → β) : FailsWith P (x.map f) := by
  cases x with
  | error e => exact error (hx e rfl)
  | ok a => exact ok (f a)

theorem mapM {f : α → Except ε β} {xs : List α} (hf : ∀ x ∈ xs, FailsWith P (f x)) :
    FailsWith P (xs.mapM f) := by
  induction xs with
  | nil => exact ok []
  | cons x xs ih =>
    obtain ⟨hx, hxs⟩ := List.forall_mem_cons.1 hf
    rw [List.mapM_cons]
    exact hx.bind fun y _ => (ih hxs).bind fun ys _ => ok (y :: ys)

end FailsWith

end Except
