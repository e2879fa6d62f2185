import Mathlib.Data.List.Nodup
import RouteScaffold.Proofs.Ledger.Run

/-!
# What a ledger has handed out

A ledger does not remember the answers it gave. `Accounts` says how its three fields follow from
them: the issued map lists the codes of the answers, the block map holds the opened blocks, and the
next index comes right after the greatest of these. Every request keeps this, refused ones for the
plain reason that they leave the ledger alone.

The main statement is `run_accounted`: over any run that starts with an empty ledger, codes and
blocks are handed out once, codes follow the formula of their request, `openBlock` counts on from
the greatest open block, and a refusal leaves no trace.
-/

namespace RouteScaffold

namespace CodeLedger

/-- `group` comes right after the greatest of `blocks`; without any block it is zero. -/
def ComesNext (blocks : List Nat) (group : Nat) : Prop :=
  (blocks = [] ∧ group = 0) ∨ ∃ last ∈ blocks, group = last + 1 ∧ ∀ other ∈ blocks, other ≤ last

theorem ComesNext.notMem {blocks : List Nat} {group : Nat} (h : ComesNext blocks group) :
    group ∉ blocks := by
  rcases h with ⟨rfl, -⟩ | ⟨last, -, rfl, hmax⟩
  · exact List.not_mem_nil
  · intro hmem
    have hle := hmax (last + 1) hmem
    omega

theorem ComesNext.concat {blocks : List Nat} {next : Nat} (h : ComesNext blocks next)
    (group : Nat) : ComesNext (blocks ++ [group]) (max next (group + 1)) := by
  right
  rcases h with ⟨rfl, rfl⟩ | ⟨last, hlast, rfl, hmax⟩
  · exact ⟨group, by simp, by omega, by simp⟩
  · by_cases hle : group ≤ last
    · refine ⟨last, List.mem_append_left _ hlast, by omega, fun other hother => ?_⟩
      rcases List.mem_append.1 hother with hother | hother
      · exact hmax other hother
      · rwa [List.mem_singleton.1 hother]
    · refine ⟨group, by simp, by omega, fun other hother => ?_⟩
      rcases List.mem_append.1 hother with hother | hother
      · have hother := hmax other hother
        omega
      · exact Nat.le_of_eq (List.mem_singleton.1 hother)

/-- A ledger, the codes issued from it with their owners, and the blocks opened in it. -/
structure Accounts (ledger : CodeLedger) (codes : List (Nat × String)) (blocks : List Nat) :
    Prop where
  perm_issued : ledger.issued.entries.Perm codes
  nodup_codes : (codes.map Prod.fst).Nodup
  get?_blocks : ∀ group, ledger.blocks.get? group = none ↔ group ∉ blocks
  nodup_blocks : blocks.Nodup
  comesNext : ComesNext blocks ledger.nextGroup

namespace Accounts

variable {ledger : CodeLedger} {codes : List (Nat × String)} {blocks : List Nat}

theorem empty : Accounts {} [] [] where
  perm_issued := .refl _
  nodup_codes := .nil
  get?_blocks := by simp
  nodup_blocks := .nil
  comesNext := .inl ⟨rfl, rfl⟩

/-- The next index is free, so the block there can be refused for its size or its place only. -/
theorem get?_nextGroup (h : Accounts ledger codes blocks) :
    ledger.blocks.get? ledger.nextGroup = none :=
  (h.get?_blocks _).2 h.comesNext.notMem

theorem openBlock (h : Accounts ledger codes blocks) {group : Nat} (subject : String)
    (hfree : ledger.blocks.get? group = none) :
    Accounts
      { ledger with
        blocks := ledger.blocks.insert group subject
        nextGroup := max ledger.nextGroup (group + 1) }
      codes (blocks ++ [group]) where
  perm_issued := h.perm_issued
  nodup_codes := h.nodup_codes
  get?_blocks other := by
    rw [SortedMap.get?_insert]
    by_cases heq : other = group
    · simp [heq]
    · have hne : compare other group ≠ .eq := fun h => heq (Std.LawfulEqOrd.eq_of_compare h)
      simp [h.get?_blocks, hne, heq]
  nodup_blocks := by
    rw [List.nodup_append]
    refine ⟨h.nodup_blocks, List.nodup_singleton group, fun other hother last hlast heq => ?_⟩
    rw [heq, List.mem_singleton.1 hlast] at hother
    exact (h.get?_blocks group).1 hfree hother
  comesNext := h.comesNext.concat group

theorem issue (h : Accounts ledger codes blocks) {code : Nat} (owner : String)
    (hfree : ledger.issued.get? code = none) :
    Accounts { ledger with issued := ledger.issued.insert code owner } (codes ++ [(code, owner)])
      blocks where
  perm_issued :=
    (SortedMap.perm_entries_insert owner hfree).trans
      ((h.perm_issued.cons (code, owner)).trans (List.perm_append_singleton _ _).symm)
  nodup_codes := by
    rw [List.map_append, List.nodup_append]
    refine ⟨h.nodup_codes, List.nodup_singleton code, fun other hother last hlast heq => ?_⟩
    obtain ⟨entry, hentry, rfl⟩ := List.mem_map.1 hother
    have hnew := SortedMap.get?_eq_none_iff.1 hfree entry (h.perm_issued.mem_iff.2 hentry)
    exact hnew (heq.trans (List.mem_singleton.1 hlast))
  get?_blocks := h.get?_blocks
  nodup_blocks := h.nodup_blocks
  comesNext := h.comesNext

end Accounts

theorem accounts_run (requests : List CodeRequest) :
    Accounts (after {} requests) (codesIssued {} requests) (blocksOpened {} requests) := by
  induction requests using List.reverseRecOn with
  | nil => exact .empty
  | append_singleton requests request ih =>
    rw [after_concat, codesIssued_concat, blocksOpened_concat]
    rcases (after {} requests).answer_cases request with
      ⟨failure, h⟩ | ⟨group, subject, routes, -, hfree, h⟩ |
        ⟨group, action, owner, code, rfl, -, -, hfree, h⟩
    · rw [h]
      simpa [grantedCode?, grantedBlock?] using ih
    · rw [h]
      simpa [grantedCode?, grantedBlock?] using ih.openBlock subject hfree
    · rw [h]
      simpa [grantedCode?, grantedBlock?] using ih.issue owner hfree

/-! ### The answers of a run -/

/-- A granted code was asked for as an action of a block, and it is the code of that action. -/
theorem exists_issue_of_answer {ledger : CodeLedger} {request : CodeRequest} {code : Nat}
    (h : (ledger.answer request).1 = .ok (.code code)) :
    ∃ group action owner, request = .issue group action owner ∧ action < 99 ∧
      ErrorCode.ofAction? group action = some code := by
  rcases ledger.answer_cases request with
    ⟨failure, hanswer⟩ | ⟨group, subject, routes, -, -, hanswer⟩ |
      ⟨group, action, owner, found, hrequest, haction, hfound, -, hanswer⟩
  · rw [hanswer] at h
    cases h
  · rw [hanswer] at h
    cases h
  · rw [hanswer] at h
    cases h
    exact ⟨group, action, owner, hrequest, haction, hfound⟩

theorem answer_snd_of_error {ledger : CodeLedger} {request : CodeRequest} {failure : Failure}
    (h : (ledger.answer request).1 = .error failure) : (ledger.answer request).2 = ledger := by
  rcases ledger.answer_cases request with
    ⟨_, hanswer⟩ | ⟨_, _, _, -, -, hanswer⟩ | ⟨_, _, _, _, -, -, -, -, hanswer⟩
  · rw [hanswer]
  · rw [hanswer] at h
    cases h
  · rw [hanswer] at h
    cases h

/-- A block that was not asked for by its index has the next one. -/
theorem eq_nextGroup_of_answer {ledger : CodeLedger} {subject : String} {routes group : Nat}
    (h : (ledger.answer (.openBlock subject routes)).1 = .ok (.block group)) :
    group = ledger.nextGroup := by
  rcases ledger.openBlockAt_cases ledger.nextGroup subject routes with
    ⟨_, hanswer⟩ | ⟨-, -, -, hanswer⟩
  · rw [answer, openBlock, hanswer] at h
    cases h
  · rw [answer, openBlock, hanswer] at h
    cases h
    rfl

theorem answer_openBlock_ne_duplicateCode {ledger : CodeLedger}
    (hfree : ledger.blocks.get? ledger.nextGroup = none) (subject : String) (routes code : Nat)
    (first second : CodeHolder) :
    (ledger.answer (.openBlock subject routes)).1 ≠ .error (.duplicateCode code first second) := by
  intro h
  rw [answer, openBlock, openBlockAt, openable_eq, hfree] at h
  by_cases hroutes : 99 < routes
  · rw [if_pos hroutes] at h
    cases h
  by_cases hgroup : 42949651 < ledger.nextGroup
  · rw [if_neg hroutes, if_pos hgroup] at h
    cases h
  · rw [if_neg hroutes, if_neg hgroup] at h
    cases h

/-- What holds of every run of requests to an empty ledger. -/
structure Accounted (requests : List CodeRequest) : Prop where
  nodup_codes : ((codesIssued {} requests).map Prod.fst).Nodup
  /-- The ledger lists the codes of the successful answers with their owners, and no others. -/
  perm_issued : (after {} requests).issued.entries.Perm (codesIssued {} requests)
  ascending_issued : (after {} requests).issued.keys.Pairwise (· < ·)
  code_eq : ∀ request code, (request, .ok (.code code)) ∈ exchanges {} requests →
    ∃ group action owner, request = .issue group action owner ∧ action < 99 ∧
      ErrorCode.ofAction? group action = some code ∧ code = 2000 + 100 * group + action + 1
  /-- A code tells its block and its action. -/
  code_inj : ∀ group action group' action' code, action < 99 → action' < 99 →
    ErrorCode.ofAction? group action = some code →
    ErrorCode.ofAction? group' action' = some code → group = group' ∧ action = action'
  nodup_blocks : (blocksOpened {} requests).Nodup
  openBlock_next : ∀ i subject routes group,
    (exchanges {} requests)[i]? = some (.openBlock subject routes, .ok (.block group)) →
    ComesNext (blocksOpened {} (requests.take i)) group
  openBlock_not_duplicate : ∀ subject routes code first second,
    (.openBlock subject routes, .error (.duplicateCode code first second)) ∉ exchanges {} requests
  /-- A refused request leaves the ledger as it was. -/
  after_of_error : ∀ i request failure,
    (exchanges {} requests)[i]? = some (request, .error failure) →
    after {} (requests.take (i + 1)) = after {} (requests.take i)

/-- Every run of requests, in whatever order and with whatever arguments, keeps the books. -/
theorem run_accounted (requests : List CodeRequest) : Accounted requests where
  nodup_codes := (accounts_run requests).nodup_codes
  perm_issued := (accounts_run requests).perm_issued
  ascending_issued := by
    rw [SortedMap.keys, List.pairwise_map]
    exact (after {} requests).issued.sorted.imp Nat.compare_eq_lt.1
  code_eq request code h := by
    obtain ⟨i, hi⟩ := List.mem_iff_getElem?.1 h
    have hanswer := (getElem?_exchanges_eq_some_iff ..).1 hi
    obtain ⟨group, action, owner, hrequest, haction, hcode⟩ := exists_issue_of_answer hanswer.2
    exact ⟨group, action, owner, hrequest, haction, hcode,
      (ErrorCode.ofAction?_eq_some_iff.1 hcode).1⟩
  code_inj _ _ _ _ _ haction haction' := ErrorCode.ofAction?_inj haction haction'
  nodup_blocks := (accounts_run requests).nodup_blocks
  openBlock_next i subject routes group h := by
    have hanswer := (getElem?_exchanges_eq_some_iff ..).1 h
    rw [eq_nextGroup_of_answer hanswer.2]
    exact (accounts_run (requests.take i)).comesNext
  openBlock_not_duplicate subject routes code first second h := by
    obtain ⟨i, hi⟩ := List.mem_iff_getElem?.1 h
    have hfree := (accounts_run (requests.take i)).get?_nextGroup
    have hanswer := (getElem?_exchanges_eq_some_iff ..).1 hi
    exact answer_openBlock_ne_duplicateCode hfree subject routes code first second hanswer.2
  after_of_error i request failure h := by
    have hanswer := (getElem?_exchanges_eq_some_iff ..).1 h
    rw [after_take_succ hanswer.1, answer_snd_of_error hanswer.2]

end CodeLedger

end RouteScaffold
