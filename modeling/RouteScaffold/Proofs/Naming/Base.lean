import RouteScaffold.Naming.Token

/-!
# The base name of a route

Every name of a route is built from its base. `Route.HasBase` says on the characters of the handler
token that it leaves one, and `hasBase_iff` that this is what the resolver tests. `Route.base` is the
base as a plain text.
-/

namespace RouteScaffold

namespace Naming

/-- `base` is left of `token` when one final `handler` in any case, if there is one, is taken off. -/
def LeavesBase (token base : List Char) : Prop :=
  (∃ suffix, token = base ++ suffix ∧ suffix.map Char.toLower = handlerSuffix) ∨
    base = token ∧ ∀ head suffix, token = head ++ suffix → suffix.map Char.toLower ≠ handlerSuffix

theorem stripHandler?_eq_some_iff {token base : List Char} :
    stripHandler? token = some base ↔
      ∃ suffix, token = base ++ suffix ∧ suffix.map Char.toLower = handlerSuffix := by
  unfold stripHandler?
  simp only [beq_iff_eq]
  constructor
  · intro h
    split at h
    case isTrue hsuffix =>
      cases h
      exact ⟨token.drop (token.length - handlerSuffix.length), by simp, hsuffix⟩
    case isFalse => cases h
  · rintro ⟨suffix, rfl, hsuffix⟩
    have hlength : suffix.length = handlerSuffix.length := by rw [← hsuffix, List.length_map]
    have hcut : (base ++ suffix).length - handlerSuffix.length = base.length := by
      rw [List.length_append]
      omega
    rw [hcut, List.drop_left, List.take_left, if_pos hsuffix]

theorem leavesBase_iff {token base : List Char} :
    LeavesBase token base ↔ (stripHandler? token).getD token = base := by
  unfold LeavesBase
  cases hstrip : stripHandler? token with
  | none =>
    have hnot : ∀ head suffix, token = head ++ suffix →
        suffix.map Char.toLower ≠ handlerSuffix := by
      intro head suffix htoken hsuffix
      rw [stripHandler?_eq_some_iff.2 ⟨suffix, htoken, hsuffix⟩] at hstrip
      cases hstrip
    constructor
    · rintro (⟨suffix, htoken, hsuffix⟩ | ⟨rfl, -⟩)
      · exact absurd hsuffix (hnot base suffix htoken)
      · rfl
    · exact fun h => .inr ⟨h.symm, hnot⟩
  | some head =>
    obtain ⟨suffix, htoken, hsuffix⟩ := stripHandler?_eq_some_iff.1 hstrip
    constructor
    · rintro (h | ⟨-, h⟩)
      · rw [stripHandler?_eq_some_iff.2 h] at hstrip
        cases hstrip
        rfl
      · exact absurd hsuffix (h head suffix htoken)
    · rintro rfl
      exact .inl ⟨suffix, htoken, hsuffix⟩

theorem baseOfToken_eq_ok_iff {token base : List Char} :
    baseOfToken token = .ok base ↔ LeavesBase token base ∧ base ≠ [] := by
  rw [leavesBase_iff, baseOfToken]
  cases hleft : (stripHandler? token).getD token with
  | nil =>
    constructor
    · intro h
      cases h
    · rintro ⟨rfl, hne⟩
      exact absurd rfl hne
  | cons c rest =>
    constructor
    · intro h
      cases h
      exact ⟨rfl, List.cons_ne_nil c rest⟩
    · rintro ⟨rfl, -⟩
      rfl

end Naming

namespace Route

/-- Between the blanks around the handler token and its suffix something is left. -/
def HasBase (route : Route) : Prop :=
  ∃ base, base ≠ [] ∧ Naming.LeavesBase (Text.trimChars route.handler.toList) base

/-- The base name of the route; empty when its token leaves none. -/
def base (route : Route) : String :=
  (Naming.tokenBase route.handler).toOption.getD ""

theorem hasBase_iff {route : Route} :
    route.HasBase ↔ ∃ base, Naming.tokenBase route.handler = .ok base := by
  unfold HasBase Naming.tokenBase
  constructor
  · rintro ⟨base, hne, hleaves⟩
    rw [Naming.baseOfToken_eq_ok_iff.2 ⟨hleaves, hne⟩]
    exact ⟨String.ofList base, rfl⟩
  · rintro ⟨_, h⟩
    cases hbase : Naming.baseOfToken (Text.trimChars route.handler.toList) with
    | error fault =>
      rw [hbase] at h
      cases h
    | ok base =>
      have hleaves := Naming.baseOfToken_eq_ok_iff.1 hbase
      exact ⟨base, hleaves.2, hleaves.1⟩

theorem base_eq_of_tokenBase {route : Route} {base : String}
    (h : Naming.tokenBase route.handler = .ok base) : route.base = base := by
  rw [Route.base, h]
  rfl

theorem HasBase.tokenBase_eq {route : Route} (h : route.HasBase) :
    Naming.tokenBase route.handler = .ok route.base := by
  obtain ⟨base, hbase⟩ := hasBase_iff.1 h
  rw [hbase, base_eq_of_tokenBase hbase]

theorem HasBase.leavesBase {route : Route} (h : route.HasBase) :
    Naming.LeavesBase (Text.trimChars route.handler.toList) route.base.toList ∧
      route.base.toList ≠ [] := by
  obtain ⟨base, hne, hleaves⟩ := h
  have hbase : Naming.tokenBase route.handler = .ok (String.ofList base) := by
    rw [Naming.tokenBase, Naming.baseOfToken_eq_ok_iff.2 ⟨hleaves, hne⟩]
    rfl
  rw [base_eq_of_tokenBase hbase, String.toList_ofList]
  exact ⟨hleaves, hne⟩

theorem HasBase.base_ne_nil {route : Route} (h : route.HasBase) : route.base.toList ≠ [] :=
  h.leavesBase.2

/-- A base has no characters but those of its token. -/
theorem HasBase.mem_of_mem_base {route : Route} (h : route.HasBase) {c : Char}
    (hc : c ∈ route.base.toList) : c ∈ route.handler.toList := by
  obtain ⟨before, after, hhandler, -, -⟩ := Text.exists_trim_eq route.handler.toList
  have htrimmed : c ∈ Text.trimChars route.handler.toList := by
    obtain ⟨suffix, htoken, -⟩ | ⟨hbase, -⟩ := h.leavesBase.1
    · rw [htoken]
      exact List.mem_append_left suffix hc
    · rwa [← hbase]
  rw [hhandler]
  exact List.mem_append_left after (List.mem_append_right before htrimmed)

end Route

theorem PlacedGroup.baseName_of_hasBase {route : Route} (placed : PlacedGroup) (cfg : Config)
    (routeIndex : Nat) (h : route.HasBase) :
    placed.baseName cfg routeIndex route = .ok route.base := by
  unfold baseName
  rw [h.tokenBase_eq]

theorem PlacedGroup.hasBase_of_baseName {placed : PlacedGroup} {cfg : Config} {routeIndex : Nat}
    {route : Route} {base : String} (h : placed.baseName cfg routeIndex route = .ok base) :
    route.HasBase := by
  unfold baseName at h
  split at h
  case h_1 found hfound => exact Route.hasBase_iff.2 ⟨found, hfound⟩
  case h_2 => cases h

end RouteScaffold
