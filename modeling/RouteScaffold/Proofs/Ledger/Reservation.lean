import RouteScaffold.Proofs.Except
import RouteScaffold.Proofs.Ledger.Accounts
import RouteScaffold.Proofs.SortedMap

/-!
# Reserved blocks

A block is opened only when the code of its last action fits, and every other code of the block is smaller. So
what was opened stays good: an action of an open block gets its code, whatever was asked before, unless it has
got it already. A refusal can only tell of a repetition.

The main statement is `blocks_reserved`.
-/

namespace RouteScaffold

namespace CodeLedger

variable {requests : List CodeRequest} {group action routes : Nat} {owner subject : String}

/-- The run has opened the block for a group with so many routes. -/
def Reserves (requests : List CodeRequest) (group routes : Nat) : Prop :=
  ∃ subject, (.openBlock subject routes, .ok (.block group)) ∈ exchanges {} requests ∨
    (.openBlockAt group subject routes, .ok (.block group)) ∈ exchanges {} requests

/-- How an action of a reserved block is answered after a run: it gets its code, or it got it in the run. -/
inductive IssueEnds (requests : List CodeRequest) (group action : Nat) (owner : String) :
    Except Failure Nat → Prop where
  | granted
      (fresh : ∀ earlier code, (.issue group action earlier, .ok (.code code)) ∉ exchanges {} requests) :
      IssueEnds requests group action owner (.ok (2000 + 100 * group + action + 1))
  | repeated {first : String}
      (before : (.issue group action first, .ok (.code (2000 + 100 * group + action + 1))) ∈
        exchanges {} requests) :
      IssueEnds requests group action owner
        (.error (.duplicateCode (2000 + 100 * group + action + 1) (.entry first) (.entry owner)))

/-! ### Open blocks -/

theorem mem_exchanges_iff {request : CodeRequest} {answer : Except Failure CodeGrant} :
    (request, answer) ∈ exchanges {} requests ↔
      ∃ i, requests[i]? = some request ∧ ((after {} (requests.take i)).answer request).1 = answer := by
  rw [List.mem_iff_getElem?]
  exact exists_congr fun i => getElem?_exchanges_eq_some_iff ..

theorem openBlockAt_eq_ok_iff {ledger : CodeLedger} {index : Nat} :
    (ledger.openBlockAt group subject routes).1 = .ok index ↔
      index = group ∧ routes ≤ 99 ∧ group ≤ 42949651 ∧ ledger.blocks.get? group = none := by
  obtain ⟨failure, h⟩ | ⟨hroutes, hgroup, hfree, h⟩ := ledger.openBlockAt_cases group subject routes
  · have hrefused : ¬ (routes ≤ 99 ∧ group ≤ 42949651 ∧ ledger.blocks.get? group = none) := by
      rintro ⟨hroutes, hgroup, hfree⟩
      rw [openBlockAt, openable_eq, if_neg (by omega), if_neg (by omega), hfree] at h
      cases h
    rw [h]
    simp [hrefused]
  · rw [h]
    simp [hroutes, hgroup, hfree, eq_comm]

theorem bounds_of_opened {ledger : CodeLedger} {index : Nat}
    (h : (ledger.openBlockAt index subject routes).1.map CodeGrant.block = .ok (.block group)) :
    index = group ∧ routes ≤ 99 ∧ group ≤ 42949651 := by
  obtain ⟨opened, hopened, hblock⟩ := Except.map_eq_ok_iff.1 h
  cases hblock
  obtain ⟨rfl, hroutes, hgroup, -⟩ := openBlockAt_eq_ok_iff.1 hopened
  exact ⟨rfl, hroutes, hgroup⟩

theorem bounds_of_reserves (h : Reserves requests group routes) : routes ≤ 99 ∧ group ≤ 42949651 := by
  obtain ⟨subject, h | h⟩ := h
  · obtain ⟨i, -, hanswer⟩ := mem_exchanges_iff.1 h
    exact (bounds_of_opened hanswer).2
  · obtain ⟨i, -, hanswer⟩ := mem_exchanges_iff.1 h
    exact (bounds_of_opened hanswer).2

theorem exists_reserves_of_mem_blocksOpened (h : group ∈ blocksOpened {} requests) :
    ∃ routes, Reserves requests group routes := by
  obtain ⟨⟨request, answer⟩, hexchange, hgranted⟩ := List.mem_filterMap.1 h
  obtain rfl : answer = .ok (.block group) := by
    unfold grantedBlock? at hgranted
    split at hgranted
    case h_1 hpair =>
      cases hgranted
      exact congrArg Prod.snd hpair
    case h_2 => cases hgranted
  cases request with
  | openBlock subject routes => exact ⟨routes, subject, .inl hexchange⟩
  | openBlockAt index subject routes =>
    obtain ⟨i, -, hanswer⟩ := mem_exchanges_iff.1 hexchange
    obtain ⟨rfl, -⟩ := bounds_of_opened hanswer
    exact ⟨routes, subject, .inr hexchange⟩
  | issue index action owner =>
    obtain ⟨i, -, hanswer⟩ := mem_exchanges_iff.1 hexchange
    obtain ⟨code, -, hcode⟩ := Except.map_eq_ok_iff.1 hanswer
    cases hcode

/-- The next index follows an open block, and there are none beyond the range of the codes. -/
theorem nextGroup_le (requests : List CodeRequest) : (after {} requests).nextGroup ≤ 42949652 := by
  obtain ⟨-, hnext⟩ | ⟨last, hlast, hnext, -⟩ := (accounts_run requests).comesNext
  · omega
  · obtain ⟨routes, hreserves⟩ := exists_reserves_of_mem_blocksOpened hlast
    have hbound := (bounds_of_reserves hreserves).2
    omega

/-! ### Codes of open blocks -/

theorem code_eq_of_mem_exchanges {code : Nat}
    (h : (.issue group action owner, .ok (.code code)) ∈ exchanges {} requests) :
    action < 99 ∧ code = 2000 + 100 * group + action + 1 := by
  obtain ⟨i, -, hanswer⟩ := mem_exchanges_iff.1 h
  obtain ⟨_, _, _, hrequest, haction, hcode⟩ := exists_issue_of_answer hanswer
  cases hrequest
  exact ⟨haction, (ErrorCode.ofAction?_eq_some_iff.1 hcode).1⟩

theorem mem_codesIssued_iff {code : Nat} :
    (code, owner) ∈ codesIssued {} requests ↔
      ∃ group action, (.issue group action owner, .ok (.code code)) ∈ exchanges {} requests := by
  rw [codesIssued, List.mem_filterMap]
  constructor
  · rintro ⟨exchange, hexchange, hgranted⟩
    unfold grantedCode? at hgranted
    split at hgranted
    case h_1 group action _ _ =>
      cases hgranted
      exact ⟨group, action, hexchange⟩
    case h_2 => cases hgranted
  · rintro ⟨group, action, hexchange⟩
    exact ⟨_, hexchange, rfl⟩

/-- A code in the ledger was issued to the one action that it belongs to. -/
theorem issue_of_get? (haction : action < 99)
    (h : (after {} requests).issued.get? (2000 + 100 * group + action + 1) = some owner) :
    (.issue group action owner, .ok (.code (2000 + 100 * group + action + 1))) ∈
      exchanges {} requests := by
  have hissued : (2000 + 100 * group + action + 1, owner) ∈ codesIssued {} requests :=
    (accounts_run requests).perm_issued.mem_iff.1 (SortedMap.mem_of_get? h)
  obtain ⟨other, otherAction, hexchange⟩ := mem_codesIssued_iff.1 hissued
  obtain ⟨hother, hcode⟩ := code_eq_of_mem_exchanges hexchange
  -- Two actions of one code are the same action of the same block.
  obtain ⟨rfl, rfl⟩ : other = group ∧ otherAction = action := by omega
  exact hexchange

theorem not_mem_exchanges_of_get?
    (h : (after {} requests).issued.get? (2000 + 100 * group + action + 1) = none) (earlier : String)
    (code : Nat) : (.issue group action earlier, .ok (.code code)) ∉ exchanges {} requests := by
  intro hexchange
  have hcode := (code_eq_of_mem_exchanges hexchange).2
  have hissued : (code, earlier) ∈ codesIssued {} requests :=
    mem_codesIssued_iff.2 ⟨group, action, hexchange⟩
  rw [← (accounts_run requests).perm_issued.mem_iff] at hissued
  exact SortedMap.get?_eq_none_iff.1 h _ hissued hcode

/-- In a reserved block an action is refused for a repetition only. -/
theorem issueEnds_of_reserves (h : Reserves requests group routes) (haction : action < routes)
    (owner : String) :
    IssueEnds requests group action owner ((after {} requests).issue group action owner).1 := by
  obtain ⟨hroutes, hgroup⟩ := bounds_of_reserves h
  have hroom : action < 99 := by omega
  rw [issue, issuable_eq, if_neg (by omega), if_neg (by omega)]
  cases hissued : (after {} requests).issued.get? (2000 + 100 * group + action + 1) with
  | none => exact .granted (not_mem_exchanges_of_get? hissued)
  | some first => exact .repeated (issue_of_get? hroom hissued)

theorem openBlockAt_after_eq_ok_iff {index : Nat} :
    ((after {} requests).openBlockAt group subject routes).1 = .ok index ↔
      index = group ∧ routes ≤ 99 ∧ group ≤ 42949651 ∧ group ∉ blocksOpened {} requests := by
  rw [openBlockAt_eq_ok_iff, (accounts_run requests).get?_blocks]

/-- The checked arithmetic of codes is that of unbounded numbers, cut off at 32 bits. A block opens when there is
room for its routes and its last code fits, so the index after it is far from the limit of 64 bits; and whatever
is asked after that, an action of the block is refused only when it has its code already. -/
theorem blocks_reserved :
    (∀ group base, ErrorCode.blockBase? group = some base ↔
      base = 2000 + 100 * group ∧ base ≤ 4294967295) ∧
    (∀ group action code, ErrorCode.ofAction? group action = some code ↔
      code = 2000 + 100 * group + action + 1 ∧ code ≤ 4294967295) ∧
    ∀ requests : List CodeRequest,
      (∀ group routes, Reserves requests group routes → ∀ action < routes, ∀ owner,
        IssueEnds requests group action owner ((after {} requests).issue group action owner).1) ∧
      (∀ group subject routes index,
        ((after {} requests).openBlockAt group subject routes).1 = .ok index ↔
          index = group ∧ routes ≤ 99 ∧ group ≤ 42949651 ∧ group ∉ blocksOpened {} requests) ∧
      (∀ group subject routes, (after {} requests).openable group subject routes = .ok () →
        group + 1 ≤ 18446744073709551615) ∧
      (after {} requests).nextGroup ≤ 42949652 := by
  refine ⟨fun group base => ?_, fun group action code => ?_, fun requests => ⟨?_, ?_, ?_, ?_⟩⟩
  · rw [ErrorCode.blockBase?_eq_some_iff, Nat.lt_succ_iff]
  · rw [ErrorCode.ofAction?_eq_some_iff, Nat.lt_succ_iff]
  · exact fun _ _ hreserves _ haction owner => issueEnds_of_reserves hreserves haction owner
  · exact fun _ _ _ _ => openBlockAt_after_eq_ok_iff
  · intro group subject routes hopen
    have hok : ((after {} requests).openBlockAt group subject routes).1 = .ok group := by
      rw [openBlockAt, hopen]
    have hgroup := (openBlockAt_eq_ok_iff.1 hok).2.2.1
    omega
  · exact nextGroup_le requests

/-- The last block that there is room for, with its last action issued. -/
def farRun : List CodeRequest :=
  [.openBlockAt 42949651 "Far" 99, .issue 42949651 98 "ErrFarLastDenied"]

theorem farRun_reserved :
    Reserves farRun 42949651 99 ∧
      IssueEnds farRun 42949651 97 "ErrFarNextDenied" (.ok 4294967198) ∧
        IssueEnds farRun 42949651 98 "ErrFarAgainDenied"
          (.error (.duplicateCode 4294967199 (.entry "ErrFarLastDenied") (.entry "ErrFarAgainDenied"))) := by
  have hreserves : Reserves farRun 42949651 99 := ⟨"Far", .inr (by decide +kernel)⟩
  have hnext : ((after {} farRun).issue 42949651 97 "ErrFarNextDenied").1 = .ok 4294967198 := by
    decide +kernel
  have hagain : ((after {} farRun).issue 42949651 98 "ErrFarAgainDenied").1 =
      .error (.duplicateCode 4294967199 (.entry "ErrFarLastDenied") (.entry "ErrFarAgainDenied")) := by
    decide +kernel
  obtain ⟨-, -, hruns⟩ := blocks_reserved
  have hissue := (hruns farRun).1 42949651 99 hreserves
  exact ⟨hreserves, hnext ▸ hissue 97 (by decide) _, hagain ▸ hissue 98 (by decide) _⟩

end CodeLedger

end RouteScaffold
