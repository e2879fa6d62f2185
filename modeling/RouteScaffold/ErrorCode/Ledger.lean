import RouteScaffold.ErrorCode.Block
import RouteScaffold.Failure
import RouteScaffold.SortedMap

/-!
The ledger of blocks and codes handed out so far, which refuses to hand out any of them twice.

A request answers with its result and the ledger after it; a refused request leaves the ledger as it
was.
-/

namespace RouteScaffold

structure CodeLedger where
  /-- One more than the greatest index of an open block. -/
  nextGroup : Nat := 0
  /-- The subject that owns each open block. -/
  blocks : SortedMap Nat String := .empty
  /-- The owner of each issued code. -/
  issued : SortedMap Nat String := .empty
  deriving DecidableEq

namespace CodeLedger

instance : Inhabited CodeLedger := ⟨{}⟩

/-- Whether the block at an index can be opened for a group with so many routes: the routes fit, the
block lies within the code range, and no other group owns it. -/
def openable (ledger : CodeLedger) (group : Nat) (subject : String) (routes : Nat) :
    Except Failure Unit :=
  if ErrorCode.capacity < routes then
    .error (.codeBlockOverflow subject routes ErrorCode.capacity)
  else
    match ErrorCode.ofAction? group (ErrorCode.capacity - 1), ErrorCode.blockBase? group with
    | some _, some base =>
      match ledger.blocks.get? group with
      | some owner => .error (.duplicateCode base (.block owner) (.block subject))
      | none => .ok ()
    | _, _ => .error (.codeRangeExhausted subject group)

/-- Opens the block at a given index for a group with so many routes. -/
def openBlockAt (ledger : CodeLedger) (group : Nat) (subject : String) (routes : Nat) :
    Except Failure Nat × CodeLedger :=
  match ledger.openable group subject routes with
  | .error failure => (.error failure, ledger)
  | .ok () =>
    (.ok group,
      { ledger with
        blocks := ledger.blocks.insert group subject
        nextGroup := max ledger.nextGroup (group + 1) })

/-- Opens the block after the last open one. -/
def openBlock (ledger : CodeLedger) (subject : String) (routes : Nat) :
    Except Failure Nat × CodeLedger :=
  ledger.openBlockAt ledger.nextGroup subject routes

/-- The code of an action, if it lies in its block, fits and is free. -/
def issuable (ledger : CodeLedger) (group action : Nat) (owner : String) : Except Failure Nat :=
  if ErrorCode.capacity ≤ action then
    .error (.codeBlockOverflow owner (action + 1) ErrorCode.capacity)
  else
    match ErrorCode.ofAction? group action with
    | none => .error (.codeRangeExhausted owner group)
    | some code =>
      match ledger.issued.get? code with
      | some first => .error (.duplicateCode code (.entry first) (.entry owner))
      | none => .ok code

/-- Issues the code of an action and notes its owner. -/
def issue (ledger : CodeLedger) (group action : Nat) (owner : String) :
    Except Failure Nat × CodeLedger :=
  match ledger.issuable group action owner with
  | .error failure => (.error failure, ledger)
  | .ok code => (.ok code, { ledger with issued := ledger.issued.insert code owner })

/-- When a block can be opened, in plain numbers: the checks in their order. -/
theorem openable_eq (ledger : CodeLedger) (group : Nat) (subject : String) (routes : Nat) :
    ledger.openable group subject routes =
      if 99 < routes then .error (.codeBlockOverflow subject routes 99)
      else if 42949651 < group then .error (.codeRangeExhausted subject group)
      else
        match ledger.blocks.get? group with
        | some owner =>
          .error (.duplicateCode (2000 + 100 * group) (.block owner) (.block subject))
        | none => .ok () := by
  unfold openable
  by_cases hroutes : 99 < routes
  · rw [if_pos hroutes]
    exact if_pos hroutes
  rw [if_neg hroutes, if_neg (show ¬ ErrorCode.capacity < routes from hroutes)]
  by_cases hgroup : 42949651 < group
  · have hnone : ErrorCode.ofAction? group (ErrorCode.capacity - 1) = none := by
      rw [Option.eq_none_iff_forall_ne_some]
      intro code hcode
      have hfits := ErrorCode.ofAction?_eq_some_iff.1 hcode
      simp only [ErrorCode.capacity, ErrorCode.blockSize] at hfits
      omega
    rw [hnone, if_pos hgroup]
  · have hlast : ErrorCode.ofAction? group (ErrorCode.capacity - 1) =
        some (2000 + 100 * group + 98 + 1) :=
      ErrorCode.ofAction?_eq_some_iff.2 ⟨rfl, by omega⟩
    have hbase : ErrorCode.blockBase? group = some (2000 + 100 * group) :=
      ErrorCode.blockBase?_eq_some_iff.2 ⟨rfl, by omega⟩
    rw [hlast, hbase, if_neg hgroup]

/-- When the code of an action can be issued, in plain numbers. -/
theorem issuable_eq (ledger : CodeLedger) (group action : Nat) (owner : String) :
    ledger.issuable group action owner =
      if 99 ≤ action then .error (.codeBlockOverflow owner (action + 1) 99)
      else if 4294967296 ≤ 2000 + 100 * group + action + 1 then
        .error (.codeRangeExhausted owner group)
      else
        match ledger.issued.get? (2000 + 100 * group + action + 1) with
        | some first =>
          .error (.duplicateCode (2000 + 100 * group + action + 1) (.entry first) (.entry owner))
        | none => .ok (2000 + 100 * group + action + 1) := by
  unfold issuable
  by_cases haction : 99 ≤ action
  · rw [if_pos haction]
    exact if_pos haction
  rw [if_neg haction, if_neg (show ¬ ErrorCode.capacity ≤ action from haction)]
  by_cases hlimit : 4294967296 ≤ 2000 + 100 * group + action + 1
  · have hnone : ErrorCode.ofAction? group action = none := by
      rw [Option.eq_none_iff_forall_ne_some]
      intro code hcode
      have hfits := ErrorCode.ofAction?_eq_some_iff.1 hcode
      omega
    rw [hnone, if_pos hlimit]
  · have hcode : ErrorCode.ofAction? group action = some (2000 + 100 * group + action + 1) :=
      ErrorCode.ofAction?_eq_some_iff.2 ⟨rfl, by omega⟩
    rw [hcode, if_neg hlimit]

end CodeLedger

/-- A request to a ledger. -/
inductive CodeRequest where
  | openBlock (subject : String) (routes : Nat)
  | openBlockAt (group : Nat) (subject : String) (routes : Nat)
  | issue (group action : Nat) (owner : String)
  deriving DecidableEq, Repr

/-- What a request was granted. -/
inductive CodeGrant where
  | block (group : Nat)
  | code (code : Nat)
  deriving DecidableEq, Repr

def CodeLedger.answer (ledger : CodeLedger) : CodeRequest → Except Failure CodeGrant × CodeLedger
  | .openBlock subject routes =>
    let (result, next) := ledger.openBlock subject routes
    (result.map .block, next)
  | .openBlockAt group subject routes =>
    let (result, next) := ledger.openBlockAt group subject routes
    (result.map .block, next)
  | .issue group action owner =>
    let (result, next) := ledger.issue group action owner
    (result.map .code, next)

/-- The answers to a row of requests, each with the ledger after it. -/
def CodeLedger.run (ledger : CodeLedger) :
    List CodeRequest → List (Except Failure CodeGrant × CodeLedger)
  | [] => []
  | request :: requests =>
    let step := ledger.answer request
    step :: step.2.run requests

end RouteScaffold
