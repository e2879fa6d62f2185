import Mathlib.Data.List.Induction
import RouteScaffold.ErrorCode.Ledger

/-!
# Runs of the code ledger

A run is looked at from its end: what it hands out and leaves behind grows with each request. One
request either is refused and changes nothing, or opens a block, or issues a code; this is
`answer_cases`.
-/

namespace RouteScaffold

namespace CodeLedger

def after (ledger : CodeLedger) (requests : List CodeRequest) : CodeLedger :=
  requests.foldl (fun ledger request => (ledger.answer request).2) ledger

/-- The code that a request was granted, with the owner that asked for it. -/
def grantedCode? : CodeRequest × Except Failure CodeGrant → Option (Nat × String)
  | (.issue _ _ owner, .ok (.code code)) => some (code, owner)
  | _ => none

/-- The block that a request was granted. -/
def grantedBlock? : CodeRequest × Except Failure CodeGrant → Option Nat
  | (_, .ok (.block group)) => some group
  | _ => none

/-- The requests of a run, each with its answer. -/
def exchanges (ledger : CodeLedger) (requests : List CodeRequest) :
    List (CodeRequest × Except Failure CodeGrant) :=
  requests.zip ((ledger.run requests).map Prod.fst)

def codesIssued (ledger : CodeLedger) (requests : List CodeRequest) : List (Nat × String) :=
  (ledger.exchanges requests).filterMap grantedCode?

def blocksOpened (ledger : CodeLedger) (requests : List CodeRequest) : List Nat :=
  (ledger.exchanges requests).filterMap grantedBlock?

/-! ### Runs, one request longer -/

section Append

variable (ledger : CodeLedger) (requests : List CodeRequest) (request : CodeRequest)

theorem after_concat :
    ledger.after (requests ++ [request]) = ((ledger.after requests).answer request).2 := by
  simp [after]

@[simp] theorem length_run : (ledger.run requests).length = requests.length := by
  induction requests generalizing ledger with
  | nil => rfl
  | cons request requests ih => simp [run, ih]

theorem run_concat :
    ledger.run (requests ++ [request]) =
      ledger.run requests ++ [(ledger.after requests).answer request] := by
  induction requests generalizing ledger with
  | nil => rfl
  | cons first requests ih =>
    rw [List.cons_append, run, run, ih, List.cons_append]
    rfl

theorem exchanges_concat :
    ledger.exchanges (requests ++ [request]) =
      ledger.exchanges requests ++ [(request, ((ledger.after requests).answer request).1)] := by
  rw [exchanges, run_concat, List.map_append, List.zip_append (by simp)]
  rfl

theorem codesIssued_concat :
    ledger.codesIssued (requests ++ [request]) =
      ledger.codesIssued requests ++
        (grantedCode? (request, ((ledger.after requests).answer request).1)).toList := by
  rw [codesIssued, exchanges_concat, List.filterMap_append]
  rfl

theorem blocksOpened_concat :
    ledger.blocksOpened (requests ++ [request]) =
      ledger.blocksOpened requests ++
        (grantedBlock? (request, ((ledger.after requests).answer request).1)).toList := by
  rw [blocksOpened, exchanges_concat, List.filterMap_append]
  rfl

theorem after_take_succ {ledger : CodeLedger} {requests : List CodeRequest} {i : Nat}
    {request : CodeRequest} (h : requests[i]? = some request) :
    ledger.after (requests.take (i + 1)) = ((ledger.after (requests.take i)).answer request).2 := by
  rw [List.take_add_one, h]
  exact ledger.after_concat (requests.take i) request

/-- Every request is answered by the ledger that the requests before it leave. -/
theorem getElem?_exchanges (i : Nat) :
    (ledger.exchanges requests)[i]? =
      requests[i]?.map fun request =>
        (request, ((ledger.after (requests.take i)).answer request).1) := by
  induction requests using List.reverseRecOn with
  | nil => rfl
  | append_singleton requests last ih =>
    have hlength : (ledger.exchanges requests).length = requests.length := by simp [exchanges]
    rw [exchanges_concat]
    rcases Nat.lt_trichotomy i requests.length with hlt | heq | hgt
    · rw [List.getElem?_append_left (by omega), List.getElem?_append_left hlt, ih,
        List.take_append_of_le_length (by omega)]
    · subst heq
      rw [List.getElem?_append_right (by omega), hlength]
      simp
    · rw [List.getElem?_eq_none (by simp; omega), List.getElem?_eq_none (by simp; omega)]
      rfl

theorem getElem?_exchanges_eq_some_iff {i : Nat} {answer : Except Failure CodeGrant} :
    (ledger.exchanges requests)[i]? = some (request, answer) ↔
      requests[i]? = some request ∧
        ((ledger.after (requests.take i)).answer request).1 = answer := by
  rw [getElem?_exchanges, Option.map_eq_some_iff]
  constructor
  · rintro ⟨_, hrequest, heq⟩
    obtain ⟨rfl, hanswer⟩ := Prod.mk.inj heq
    exact ⟨hrequest, hanswer⟩
  · rintro ⟨hrequest, hanswer⟩
    exact ⟨request, hrequest, by rw [hanswer]⟩

end Append

/-! ### What one request can do -/

theorem openBlockAt_cases (ledger : CodeLedger) (group : Nat) (subject : String) (routes : Nat) :
    (∃ failure, ledger.openBlockAt group subject routes = (.error failure, ledger)) ∨
      routes ≤ 99 ∧ group ≤ 42949651 ∧ ledger.blocks.get? group = none ∧
        ledger.openBlockAt group subject routes =
          (.ok group,
            { ledger with
              blocks := ledger.blocks.insert group subject
              nextGroup := max ledger.nextGroup (group + 1) }) := by
  rw [openBlockAt, openable_eq]
  by_cases hroutes : 99 < routes
  · exact .inl ⟨_, by rw [if_pos hroutes]⟩
  by_cases hgroup : 42949651 < group
  · exact .inl ⟨_, by rw [if_neg hroutes, if_pos hgroup]⟩
  rw [if_neg hroutes, if_neg hgroup]
  cases hblock : ledger.blocks.get? group with
  | some owner => exact .inl ⟨_, rfl⟩
  | none => exact .inr ⟨by omega, by omega, rfl, rfl⟩

theorem issue_cases (ledger : CodeLedger) (group action : Nat) (owner : String) :
    (∃ failure, ledger.issue group action owner = (.error failure, ledger)) ∨
      ∃ code, action < 99 ∧ ErrorCode.ofAction? group action = some code ∧
        ledger.issued.get? code = none ∧
        ledger.issue group action owner =
          (.ok code, { ledger with issued := ledger.issued.insert code owner }) := by
  rw [issue, issuable_eq]
  by_cases haction : 99 ≤ action
  · exact .inl ⟨_, by rw [if_pos haction]⟩
  by_cases hlimit : 4294967296 ≤ 2000 + 100 * group + action + 1
  · exact .inl ⟨_, by rw [if_neg haction, if_pos hlimit]⟩
  rw [if_neg haction, if_neg hlimit]
  cases hcode : ledger.issued.get? (2000 + 100 * group + action + 1) with
  | some first => exact .inl ⟨_, rfl⟩
  | none =>
    exact .inr ⟨_, by omega, ErrorCode.ofAction?_eq_some_iff.2 ⟨rfl, by omega⟩, hcode, rfl⟩

/-- A request is refused and changes nothing, or it opens a free block, or it issues a free code. -/
theorem answer_cases (ledger : CodeLedger) (request : CodeRequest) :
    (∃ failure, ledger.answer request = (.error failure, ledger)) ∨
      (∃ group subject routes,
        (request = .openBlock subject routes ∧ group = ledger.nextGroup ∨
          request = .openBlockAt group subject routes) ∧
        ledger.blocks.get? group = none ∧
        ledger.answer request =
          (.ok (.block group),
            { ledger with
              blocks := ledger.blocks.insert group subject
              nextGroup := max ledger.nextGroup (group + 1) })) ∨
      ∃ group action owner code,
        request = .issue group action owner ∧ action < 99 ∧
        ErrorCode.ofAction? group action = some code ∧ ledger.issued.get? code = none ∧
        ledger.answer request =
          (.ok (.code code), { ledger with issued := ledger.issued.insert code owner }) := by
  cases request with
  | openBlock subject routes =>
    rcases ledger.openBlockAt_cases ledger.nextGroup subject routes with
      ⟨failure, h⟩ | ⟨-, -, hfree, h⟩
    · exact .inl ⟨failure, by rw [answer, openBlock, h]; rfl⟩
    · exact .inr (.inl ⟨_, subject, routes, .inl ⟨rfl, rfl⟩, hfree, by rw [answer, openBlock, h]; rfl⟩)
  | openBlockAt group subject routes =>
    rcases ledger.openBlockAt_cases group subject routes with ⟨failure, h⟩ | ⟨-, -, hfree, h⟩
    · exact .inl ⟨failure, by rw [answer, h]; rfl⟩
    · exact .inr (.inl ⟨group, subject, routes, .inr rfl, hfree, by rw [answer, h]; rfl⟩)
  | issue group action owner =>
    rcases ledger.issue_cases group action owner with
      ⟨failure, h⟩ | ⟨code, haction, hcode, hfree, h⟩
    · exact .inl ⟨failure, by rw [answer, h]; rfl⟩
    · exact .inr (.inr ⟨group, action, owner, code, rfl, haction, hcode, hfree,
        by rw [answer, h]; rfl⟩)

end CodeLedger

end RouteScaffold
