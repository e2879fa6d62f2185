import RouteScaffold.Proofs.Naming.Base
import RouteScaffold.Proofs.Plan.Targets
import RouteScaffold.Proofs.Text.Classes

/-!
# The suffix of a handler token

A token loses one `handler` at its end and no more. The suffix is ASCII, so it stands in the last seven bytes
of a token exactly when it is made of its last seven characters, and a cut inside a character leaves the
token whole. An identifier is a base with one more suffix, so it gives the base back, with the case of the
first letter that the folder of the handler asks for.

The main statement is `baseName_decodes`.
-/

namespace RouteScaffold

namespace Text

variable {s head tail : List Char}

/-- The length of a text in bytes. -/
def byteLength : List Char → Nat
  | [] => 0
  | c :: rest => c.utf8Size + byteLength rest

/-- What stands before and after a byte offset, unless the offset lies inside a character. -/
def cutAt? : Nat → List Char → Option (List Char × List Char)
  | 0, s => some ([], s)
  | _ + 1, [] => none
  | n + 1, c :: rest =>
    if c.utf8Size ≤ n + 1 then (cutAt? (n + 1 - c.utf8Size) rest).map fun p => (c :: p.1, p.2) else none

theorem byteLength_cons (c : Char) (s : List Char) : byteLength (c :: s) = c.utf8Size + byteLength s :=
  rfl

theorem byteLength_append (s t : List Char) : byteLength (s ++ t) = byteLength s + byteLength t := by
  induction s with
  | nil => rw [List.nil_append, byteLength, Nat.zero_add]
  | cons c rest ih => rw [List.cons_append, byteLength_cons, byteLength_cons, ih, Nat.add_assoc]

theorem byteLength_eq_zero_iff : byteLength s = 0 ↔ s = [] := by
  cases s with
  | nil => exact iff_of_true rfl rfl
  | cons c rest =>
    have hpos : 0 < c.utf8Size := c.utf8Size_pos
    rw [byteLength_cons]
    exact iff_of_false (by omega) (List.cons_ne_nil c rest)

theorem byteLength_of_isAscii (h : IsAscii s) : byteLength s = s.length := by
  induction s with
  | nil => rfl
  | cons c rest ih =>
    obtain ⟨hc, hrest⟩ := List.forall_mem_cons.1 h
    have hsize : c.utf8Size = 1 := by
      rw [Char.utf8Size_eq_one_iff, UInt32.le_iff_toNat_le]
      exact Nat.le_of_lt_succ hc
    rw [byteLength_cons, hsize, ih hrest, List.length_cons, Nat.add_comm]

/-- A character takes at least one byte, so every text of `n` bytes at the front is found. -/
theorem cutAt?_eq_some_iff {n : Nat} :
    cutAt? n s = some (head, tail) ↔ s = head ++ tail ∧ byteLength head = n := by
  induction n, s using cutAt?.induct generalizing head with
  | case1 s =>
    rw [cutAt?, byteLength_eq_zero_iff, Option.some.injEq, Prod.mk.injEq]
    constructor
    · rintro ⟨rfl, rfl⟩
      exact ⟨rfl, rfl⟩
    · rintro ⟨htail, rfl⟩
      exact ⟨rfl, htail⟩
  | case2 n =>
    refine iff_of_false (fun h => by cases h) ?_
    rintro ⟨hnil, hlength⟩
    rw [(List.append_eq_nil_iff.1 hnil.symm).1] at hlength
    cases hlength
  | case3 n c rest hfits ih =>
    rw [cutAt?, if_pos hfits, Option.map_eq_some_iff]
    constructor
    · rintro ⟨⟨head', tail'⟩, hcut, hsame⟩
      cases hsame
      obtain ⟨rfl, hlength⟩ := ih.1 hcut
      refine ⟨rfl, ?_⟩
      rw [byteLength_cons, hlength]
      omega
    · rintro ⟨hsplit, hlength⟩
      cases head with
      | nil => cases hlength
      | cons d head =>
        obtain ⟨rfl, rfl⟩ := List.cons.inj hsplit
        rw [byteLength_cons] at hlength
        exact ⟨(head, tail), ih.2 ⟨rfl, by omega⟩, rfl⟩
  | case4 n c rest hlong =>
    rw [cutAt?, if_neg hlong]
    refine iff_of_false (fun h => by cases h) ?_
    rintro ⟨hsplit, hlength⟩
    cases head with
    | nil => cases hlength
    | cons d head =>
      obtain ⟨rfl, -⟩ := List.cons.inj hsplit
      rw [byteLength_cons] at hlength
      omega

theorem toNat_lt_of_toLower {c : Char} (h : c.toLower.toNat < 128) : c.toNat < 128 := by
  unfold Char.toLower at h
  split at h
  case isTrue hupper =>
    have hlast : c.toNat ≤ 90 := hupper.2
    omega
  case isFalse => exact h

/-- A title begins with a blank only where the text does. -/
theorem isBlank_head_titleChars (h : ∀ c, s.head? = some c → isBlank c = false) {d : Char}
    (hd : (titleChars s).head? = some d) : isBlank d = false := by
  cases s with
  | nil => cases hd
  | cons c rest =>
    rw [titleChars_cons, List.head?_append_of_ne_nil _ (upperChar_ne_nil c)] at hd
    rw [Bool.eq_false_iff]
    intro hblank
    obtain rfl := eq_of_isBlank_of_mem_upperChar (List.mem_of_head? hd) hblank
    rw [h d rfl] at hblank
    cases hblank

end Text

namespace Naming

open Text (byteLength cutAt?)

/-- The word `handler` in any case. -/
def IsHandlerSuffix (suffix : String) : Prop :=
  suffix.toList.map Char.toLower = handlerSuffix

instance (suffix : String) : Decidable (IsHandlerSuffix suffix) :=
  inferInstanceAs (Decidable (_ = _))

theorem byteLength_of_map_toLower {suffix : List Char} (h : suffix.map Char.toLower = handlerSuffix) :
    byteLength suffix = byteLength handlerSuffix := by
  have hascii : Text.IsAscii suffix := by
    intro c hc
    have hlower : c.toLower ∈ handlerSuffix := by
      rw [← h]
      exact List.mem_map_of_mem hc
    have hall : Text.IsAscii handlerSuffix := by decide
    exact Text.toNat_lt_of_toLower (hall _ hlower)
  rw [Text.byteLength_of_isAscii hascii, ← List.length_map Char.toLower, h]
  rfl

/-- The suffix test reads the last seven bytes of the token. -/
theorem stripHandler?_eq_cutAt? (token : List Char) :
    stripHandler? token =
      (cutAt? (byteLength token - byteLength handlerSuffix) token).bind fun p =>
        if p.2.map Char.toLower = handlerSuffix then some p.1 else none := by
  ext base
  rw [stripHandler?_eq_some_iff, Option.bind_eq_some_iff]
  constructor
  · -- Letters that lowercase to ASCII are ASCII, so the suffix has a byte for each of its letters.
    rintro ⟨suffix, rfl, hsuffix⟩
    refine ⟨(base, suffix), Text.cutAt?_eq_some_iff.2 ⟨rfl, ?_⟩, if_pos hsuffix⟩
    rw [Text.byteLength_append, byteLength_of_map_toLower hsuffix, Nat.add_sub_cancel]
  · rintro ⟨⟨head, tail⟩, hcut, hbase⟩
    obtain ⟨hsuffix, hhead⟩ := Option.ite_none_right_eq_some.1 hbase
    cases hhead
    exact ⟨tail, (Text.cutAt?_eq_some_iff.1 hcut).1, hsuffix⟩

theorem tokenBase_of_isHandlerSuffix {token head suffix : String} (h : Text.trim token = head ++ suffix)
    (hsuffix : IsHandlerSuffix suffix) :
    tokenBase token = if head = "" then .error (.nothingLeft (Text.trim token)) else .ok head := by
  have htoken : Text.trimChars token.toList = head.toList ++ suffix.toList := by
    rw [← Text.toList_trim, h, String.toList_append]
  have hstrip := stripHandler?_eq_some_iff.2 ⟨suffix.toList, htoken, hsuffix⟩
  unfold tokenBase
  split
  case isTrue hempty =>
    subst hempty
    have hne : Text.trimChars token.toList ≠ [] := by
      rw [htoken]
      intro hnil
      rw [IsHandlerSuffix, (List.append_eq_nil_iff.1 hnil).2] at hsuffix
      cases hsuffix
    unfold baseOfToken
    rw [hstrip, List.isEmpty_eq_false_iff.2 hne]
    rfl
  case isFalse hne =>
    have hhead : head.toList ≠ [] := by rwa [Ne, String.toList_eq_nil_iff]
    rw [baseOfToken_eq_ok_iff.2 ⟨.inl ⟨suffix.toList, htoken, hsuffix⟩, hhead⟩]
    exact congrArg Except.ok String.ofList_toList

theorem tokenBase_of_forall_not {token : String}
    (h : ∀ head suffix, Text.trim token = head ++ suffix → ¬ IsHandlerSuffix suffix) :
    tokenBase token = if Text.trim token = "" then .error .empty else .ok (Text.trim token) := by
  have hleaves : LeavesBase (Text.trimChars token.toList) (Text.trimChars token.toList) := by
    refine .inr ⟨rfl, fun head suffix htoken hsuffix => h (.ofList head) (.ofList suffix) ?_ ?_⟩
    · rw [Text.trim, htoken, String.ofList_append]
    · rwa [IsHandlerSuffix, String.toList_ofList]
  have hempty : Text.trim token = "" ↔ Text.trimChars token.toList = [] := by
    rw [← Text.toList_trim, String.toList_eq_nil_iff]
  unfold tokenBase
  split
  case isTrue htrim =>
    rw [hempty.1 htrim]
    rfl
  case isFalse hne =>
    rw [baseOfToken_eq_ok_iff.2 ⟨hleaves, fun hnil => hne (hempty.2 hnil)⟩]
    rfl

/-- An identifier loses the suffix that it was given, whatever the base ends in. -/
theorem tokenBase_handlerName {base : String} (hne : base.toList ≠ [])
    (hhead : ∀ c, base.toList.head? = some c → Text.isBlank c = false) :
    tokenBase (handlerName base) = .ok base := by
  have htrim : Text.trim (handlerName base) = base ++ "Handler" := by
    apply String.toList_injective
    rw [Text.toList_trim, handlerName, String.toList_append]
    apply Text.stripWhile_eq_self
    · intro c hc
      rw [List.head?_append_of_ne_nil _ hne] at hc
      exact hhead c hc
    · intro c hc
      rw [List.getLast?_append_of_ne_nil _ (by decide)] at hc
      cases hc
      decide
  rw [tokenBase_of_isHandlerSuffix htrim (by decide), if_neg]
  rwa [← String.toList_eq_nil_iff]

/-- The folder of a handler tells whether its identifier is exported. -/
theorem handlerIdent_eq_ite (cfg : Config) (group : Group) (route : Route) (base : String) :
    handlerIdent base (folderSegments group route cfg) =
      if handlerFolder group route cfg = handlerRoot then handlerName base
      else Text.title (handlerName base) := by
  unfold handlerIdent
  refine if_congr ?_ rfl rfl
  rw [handlerFolder_eq_handlerRoot_iff, List.isEmpty_iff]

/-- Whichever case its first letter has, an identifier is that of one base up to this letter. -/
theorem title_handlerIdent {base : String} (hne : base.toList ≠ []) (segments : List (List Char)) :
    Text.title (handlerIdent base segments) = handlerName (Text.title base) := by
  unfold handlerIdent
  split
  · exact Text.title_append hne "Handler"
  · rw [Text.title_title]
    exact Text.title_append hne "Handler"

end Naming

/-- A base begins where its token does. -/
theorem Route.HasBase.isBlank_head {route : Route} (h : route.HasBase) {c : Char}
    (hc : route.base.toList.head? = some c) : Text.isBlank c = false := by
  obtain ⟨suffix, htoken, -⟩ | ⟨hbase, -⟩ := h.leavesBase.1
  · apply Text.head_trim (s := route.handler.toList)
    rw [htoken, List.head?_append_of_ne_nil _ h.base_ne_nil, hc]
  · apply Text.head_trim (s := route.handler.toList)
    rw [← hbase, hc]

namespace PlacedGroup

variable {placed : PlacedGroup} {cfg : Config} {routeIndex : Nat} {route : Route}

theorem baseName_eq_ok_iff {base : String} :
    placed.baseName cfg routeIndex route = .ok base ↔ route.HasBase ∧ route.base = base := by
  constructor
  · intro h
    have hbase := hasBase_of_baseName h
    rw [placed.baseName_of_hasBase cfg routeIndex hbase] at h
    exact ⟨hbase, Except.ok.inj h⟩
  · rintro ⟨hbase, rfl⟩
    exact placed.baseName_of_hasBase cfg routeIndex hbase

/-- A token loses one suffix, found by bytes or by characters, and an identifier gives its base back. Handlers
of one identifier, in folders of either kind, have bases that differ in the case of the first letter only. -/
theorem baseName_decodes (placed : PlacedGroup) (cfg : Config) (routeIndex : Nat) (route : Route) :
    (∀ head suffix, Text.trim route.handler = head ++ suffix → Naming.IsHandlerSuffix suffix →
      placed.baseName cfg routeIndex route =
        if head = "" then
          .error (.namingResolution (placed.routeRef cfg routeIndex route)
            (.nothingLeft (Text.trim route.handler)))
        else .ok head) ∧
    ((∀ head suffix, Text.trim route.handler = head ++ suffix → ¬ Naming.IsHandlerSuffix suffix) →
      placed.baseName cfg routeIndex route =
        if Text.trim route.handler = "" then
          .error (.namingResolution (placed.routeRef cfg routeIndex route) .empty)
        else .ok (Text.trim route.handler)) ∧
    (∀ token, Naming.stripHandler? token =
      (Text.cutAt? (Text.byteLength token - Text.byteLength Naming.handlerSuffix) token).bind fun p =>
        if p.2.map Char.toLower = Naming.handlerSuffix then some p.1 else none) ∧
    ∀ base, placed.baseName cfg routeIndex route = .ok base →
      placed.baseName cfg routeIndex { route with handler := Naming.handlerName base } = .ok base ∧
      Text.title (Naming.handlerName base) = Naming.handlerName (Text.title base) ∧
      placed.baseName cfg routeIndex { route with handler := Text.title (Naming.handlerName base) } =
        .ok (Text.title base) ∧
      ∀ naming, ∃ plan, placed.handlerPlan cfg naming routeIndex route = .ok plan ∧
        plan.data.handlerName =
          (if plan.folder = Naming.handlerRoot then Naming.handlerName base
            else Text.title (Naming.handlerName base)) ∧
        ∀ (other : PlacedGroup) (otherCfg : Config) (otherNaming : Naming.NamingFormat) (otherIndex : Nat)
          (otherRoute : Route) (otherPlan : HandlerPlan),
          other.handlerPlan otherCfg otherNaming otherIndex otherRoute = .ok otherPlan →
            otherPlan.data.handlerName = plan.data.handlerName →
              Text.title otherRoute.base = Text.title base := by
  refine ⟨?_, ?_, Naming.stripHandler?_eq_cutAt?, ?_⟩
  · intro head suffix htoken hsuffix
    unfold baseName
    rw [Naming.tokenBase_of_isHandlerSuffix htoken hsuffix]
    by_cases hempty : head = ""
    · rw [if_pos hempty, if_pos hempty]
    · rw [if_neg hempty, if_neg hempty]
  · intro hnot
    unfold baseName
    rw [Naming.tokenBase_of_forall_not hnot]
    by_cases hempty : Text.trim route.handler = ""
    · rw [if_pos hempty, if_pos hempty]
    · rw [if_neg hempty, if_neg hempty]
  · intro base hname
    obtain ⟨hbase, rfl⟩ := baseName_eq_ok_iff.1 hname
    have hhead : ∀ c, route.base.toList.head? = some c → Text.isBlank c = false :=
      fun c => hbase.isBlank_head
    have htitle : Text.title (Naming.handlerName route.base) = Naming.handlerName (Text.title route.base) :=
      Text.title_append hbase.base_ne_nil "Handler"
    have htitled : Naming.tokenBase (Naming.handlerName (Text.title route.base)) =
        .ok (Text.title route.base) := by
      apply Naming.tokenBase_handlerName
      · rw [Text.toList_title]
        exact Text.titleChars_ne_nil hbase.base_ne_nil
      · rw [Text.toList_title]
        exact fun d => Text.isBlank_head_titleChars hhead
    refine ⟨?_, htitle, ?_, fun naming => ?_⟩
    · unfold baseName
      rw [Naming.tokenBase_handlerName hbase.base_ne_nil hhead]
    · unfold baseName
      rw [htitle, htitled]
    · refine ⟨_, handlerPlan_eq_ok_iff.2 ⟨hbase, rfl⟩,
        Naming.handlerIdent_eq_ite cfg placed.group route route.base, ?_⟩
      intro other otherCfg otherNaming otherIndex otherRoute otherPlan hother hsame
      obtain ⟨hotherBase, rfl⟩ := handlerPlan_eq_ok_iff.1 hother
      have hnames : Naming.handlerName (Text.title otherRoute.base) =
          Naming.handlerName (Text.title route.base) := by
        rw [← Naming.title_handlerIdent hotherBase.base_ne_nil,
          ← Naming.title_handlerIdent hbase.base_ne_nil]
        exact congrArg Text.title hsame
      exact (String.append_left_inj "Handler").1 hnames

end PlacedGroup

/-- One of two suffixes goes, also from a token with a letter of two bytes; in `éandler` the last seven bytes
begin inside such a letter, and all of it stays. -/
theorem uberHandler_baseName_decodes :
    PlacedGroup.baseName ⟨0, {}⟩ {} 0 { handler := " überHandlerHANDLER" } = .ok "überHandler" ∧
      PlacedGroup.baseName ⟨0, {}⟩ {} 0 { handler := "ÜberHandlerHandler" } = .ok "ÜberHandler" ∧
        PlacedGroup.baseName ⟨0, {}⟩ {} 0 { handler := "éandler" } = .ok "éandler" := by
  obtain ⟨hsuffixed, -, -, hdecodes⟩ :=
    PlacedGroup.baseName_decodes ⟨0, {}⟩ {} 0 { handler := " überHandlerHANDLER" }
  obtain ⟨-, hplain, hbytes, -⟩ := PlacedGroup.baseName_decodes ⟨0, {}⟩ {} 0 { handler := "éandler" }
  have hbase := hsuffixed "überHandler" "HANDLER" (by decide +kernel) (by decide)
  rw [if_neg (by decide)] at hbase
  obtain ⟨-, -, htitle, -⟩ := hdecodes "überHandler" hbase
  have hident : Text.title (Naming.handlerName "überHandler") = "ÜberHandlerHandler" := by decide +kernel
  have hplace : Text.title "überHandler" = "ÜberHandler" := by decide +kernel
  rw [hident, hplace] at htitle
  refine ⟨hbase, htitle, hplain fun head suffix htoken hsuffix => ?_⟩
  have hchars : Text.trimChars "éandler".toList = head.toList ++ suffix.toList := by
    rw [← Text.toList_trim, htoken, String.toList_append]
  have hstrip := Naming.stripHandler?_eq_some_iff.2 ⟨suffix.toList, hchars, hsuffix⟩
  have hinside : Text.cutAt?
      (Text.byteLength (Text.trimChars "éandler".toList) - Text.byteLength Naming.handlerSuffix)
      (Text.trimChars "éandler".toList) = none := by
    decide +kernel
  rw [hbytes, hinside] at hstrip
  cases hstrip

end RouteScaffold
