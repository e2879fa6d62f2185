/-!
The arithmetic of error codes.

Each authorization-bearing group owns a block of a hundred codes that starts at 2000 plus a hundred
times its index; the route at position `i` takes the code `i + 1` past the start. Codes and indices
fit in 32 bits, and every step is checked against that limit.
-/

namespace RouteScaffold.ErrorCode

def firstBase : Nat := 2000

def blockSize : Nat := 100

/-- The routes that a block holds; the start of the block itself is never issued. -/
def capacity : Nat := blockSize - 1

/-- Codes are 32-bit numbers and stay below this bound. -/
def limit : Nat := 4294967296

/-- The number itself if it fits in a code. -/
def fit? (n : Nat) : Option Nat :=
  if n < limit then some n else none

/-- The start of a group's block. -/
def blockBase? (group : Nat) : Option Nat := do
  let group ← fit? group
  let offset ← fit? (group * blockSize)
  fit? (offset + firstBase)

/-- The code of an action of a group. -/
def ofAction? (group action : Nat) : Option Nat := do
  let base ← blockBase? group
  let action ← fit? action
  let offset ← fit? (base + action)
  fit? (offset + 1)

theorem fit?_eq_some_iff {n m : Nat} : fit? n = some m ↔ n = m ∧ m < limit := by
  rw [fit?]
  split
  · simp only [Option.some.injEq]
    omega
  · simp only [reduceCtorEq, false_iff]
    omega

theorem blockBase?_eq_some_iff {group base : Nat} :
    blockBase? group = some base ↔ base = 2000 + 100 * group ∧ base < 4294967296 := by
  simp only [blockBase?, Option.bind_eq_bind, Option.bind_eq_some_iff, fit?_eq_some_iff, limit,
    blockSize, firstBase]
  constructor
  · rintro ⟨_, ⟨rfl, _⟩, _, ⟨rfl, _⟩, hbase, hlimit⟩
    omega
  · rintro ⟨hbase, hlimit⟩
    exact ⟨group, by omega, group * 100, by omega, by omega⟩

/-- The chain of checked steps is exact: a code is refused only when the number itself is too large. -/
theorem ofAction?_eq_some_iff {group action code : Nat} :
    ofAction? group action = some code ↔
      code = 2000 + 100 * group + action + 1 ∧ code < 4294967296 := by
  simp only [ofAction?, Option.bind_eq_bind, Option.bind_eq_some_iff, blockBase?_eq_some_iff,
    fit?_eq_some_iff, limit]
  constructor
  · rintro ⟨base, ⟨hbase, _⟩, _, ⟨rfl, _⟩, _, ⟨rfl, _⟩, hcode, hlimit⟩
    omega
  · rintro ⟨hcode, hlimit⟩
    exact ⟨2000 + 100 * group, by omega, action, by omega, 2000 + 100 * group + action, by omega,
      by omega⟩

/-- Inside their blocks codes tell the group and the action apart. -/
theorem ofAction?_inj {group action group' action' code : Nat} (haction : action < 99)
    (haction' : action' < 99) (h : ofAction? group action = some code)
    (h' : ofAction? group' action' = some code) : group = group' ∧ action = action' := by
  have hcode := (ofAction?_eq_some_iff.1 h).1
  have hcode' := (ofAction?_eq_some_iff.1 h').1
  omega

example : ofAction? 3 98 = some 2399 := by decide
example : blockBase? 42949652 = some 4294967200 := by decide
example : ofAction? 42949652 98 = none := by decide

end RouteScaffold.ErrorCode
