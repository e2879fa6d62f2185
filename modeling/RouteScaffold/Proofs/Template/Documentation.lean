import Mathlib.Data.List.DropRight
import RouteScaffold.Proofs.Path.Components
import RouteScaffold.Proofs.Template.Files

/-!
# Documentation as comment lines

Each line of a route's documentation becomes one comment line of its own. A handler file has these lines
in one place, and nothing else in it comes from the documentation.
-/

namespace RouteScaffold

open Template

/-! ### Lines -/

/-- `t` is `s` without the characters of a kind at its two ends. -/
structure Text.Stripped (p : Char → Bool) (s t : List Char) : Prop where
  ends : ∃ front back, s = front ++ t ++ back ∧ (∀ c ∈ front, p c = true) ∧ ∀ c ∈ back, p c = true
  head : ∀ c, t.head? = some c → p c = false
  last : ∀ c, t.getLast? = some c → p c = false

theorem Text.stripped_stripWhile (p : Char → Bool) (s : List Char) : Stripped p s (stripWhile p s) where
  ends := exists_stripWhile_eq p s
  head _ := head_stripWhile p
  last _ := getLast_stripWhile p

theorem Text.Stripped.subset {p : Char → Bool} {s t : List Char} (h : Stripped p s t) : t ⊆ s := by
  obtain ⟨front, back, rfl, -, -⟩ := h.ends
  exact fun c hc => List.mem_append_left back (List.mem_append_right front hc)

def commentMark : List Char := ['/', '/']

/-- The comment says what the line says: without the blanks around it, then without the quotes around
that, then without the blanks around that. -/
def CommentsOn (line comment : List Char) : Prop :=
  ∃ outer quoted text, Text.Stripped Text.isBlank line outer ∧ Text.Stripped (· == '"') outer quoted ∧
    Text.Stripped Text.isBlank quoted text ∧
      comment = if text = [] then commentMark else commentMark ++ ' ' :: text

namespace CommentsOn

variable {line comment : List Char}

theorem mark_prefix (h : CommentsOn line comment) : commentMark <+: comment := by
  obtain ⟨_, _, text, -, -, -, rfl⟩ := h
  split
  · exact List.prefix_refl _
  · exact List.prefix_append commentMark (' ' :: text)

theorem isBlank_last (h : CommentsOn line comment) {c : Char} (hc : comment.getLast? = some c) :
    Text.isBlank c = false := by
  obtain ⟨_, _, text, -, -, htext, rfl⟩ := h
  split at hc
  case isTrue =>
    obtain rfl : '/' = c := Option.some_inj.1 hc
    decide
  case isFalse hne =>
    rw [← List.singleton_append, ← List.append_assoc, List.getLast?_append_of_ne_nil _ hne] at hc
    exact htext.last c hc

theorem newline_notMem (h : CommentsOn line comment) (hline : '\n' ∉ line) : '\n' ∉ comment := by
  obtain ⟨_, _, text, houter, hquoted, htext, rfl⟩ := h
  have hsub : text ⊆ line := fun _ hc => houter.subset (hquoted.subset (htext.subset hc))
  split
  · decide
  · rw [List.mem_append, List.mem_cons, not_or, not_or]
    exact ⟨by decide, by decide, fun hmem => hline (hsub hmem)⟩

end CommentsOn

theorem dropEndWhile_comment {text : List Char}
    (hlast : ∀ c, text.getLast? = some c → Text.isBlank c = false) :
    Text.dropEndWhile Text.isBlank (commentMark ++ ' ' :: text) =
      if text = [] then commentMark else commentMark ++ ' ' :: text := by
  split
  case isTrue hnone =>
    rw [hnone]
    decide
  case isFalse hne =>
    obtain ⟨init, c, rfl⟩ := text.eq_nil_or_concat'.resolve_left hne
    have hc : Text.isBlank c = false := hlast c (List.getLast?_concat ..)
    rw [← List.cons_append, ← List.append_assoc]
    exact List.rdropWhile_concat_neg _ _ _ (by simp [hc])

theorem commentsOn_docLine (line : List Char) : CommentsOn line (docLine line) := by
  refine ⟨_, _, _, Text.stripped_stripWhile _ line, Text.stripped_stripWhile _ _,
    Text.stripped_stripWhile _ _, ?_⟩
  exact dropEndWhile_comment fun _ => Text.getLast_trim

/-! ### The whole documentation -/

theorem splitOn_formatDoc {doc : String} (h : Text.trimChars doc.toList ≠ []) :
    (formatDoc doc).toList.splitOn '\n' =
      ((Text.trimChars doc.toList).splitOn '\n').map docLine := by
  unfold formatDoc
  split
  case h_1 hnone => exact absurd hnone h
  case h_2 =>
    rw [String.toList_ofList, List.splitOn_intercalate '\n']
    · rw [List.forall_mem_map]
      exact fun line hline => (commentsOn_docLine line).newline_notMem (List.notMem_of_mem_splitOn hline)
    · exact fun hnone => List.splitOn_ne_nil '\n' _ (List.map_eq_nil_iff.1 hnone)

theorem Route.hasDoc_eq_true_iff {route : Route} :
    route.hasDoc = true ↔ Text.trimChars route.doc.toList ≠ [] := by
  rw [hasDoc, decide_eq_true_iff, Text.trim, Ne, String.ofList_eq_empty_iff]

theorem forall₂_commentsOn_of_hasDoc {route : Route} (h : route.hasDoc = true) :
    List.Forall₂ CommentsOn ((Text.trimChars route.doc.toList).splitOn '\n')
      ((formatDoc route.doc).toList.splitOn '\n') := by
  rw [splitOn_formatDoc (Route.hasDoc_eq_true_iff.1 h), List.forall₂_map_right_iff, List.forall₂_same]
  exact fun line _ => commentsOn_docLine line

theorem exists_commentsOn {route : Route} (h : route.hasDoc = true) {comment : List Char}
    (hcomment : comment ∈ (formatDoc route.doc).toList.splitOn '\n') : ∃ line, CommentsOn line comment := by
  rw [splitOn_formatDoc (Route.hasDoc_eq_true_iff.1 h)] at hcomment
  obtain ⟨line, -, rfl⟩ := List.mem_map.1 hcomment
  exact ⟨line, commentsOn_docLine line⟩

theorem formatDoc_eq_empty_iff {route : Route} : formatDoc route.doc = "" ↔ route.hasDoc = false := by
  constructor
  · intro hempty
    by_contra hdoc
    rw [Bool.not_eq_false] at hdoc
    have hmem : [] ∈ (formatDoc route.doc).toList.splitOn '\n' := by
      rw [hempty]
      exact List.mem_singleton.2 rfl
    obtain ⟨line, hline⟩ := exists_commentsOn hdoc hmem
    exact absurd (List.prefix_nil.1 hline.mark_prefix) (List.cons_ne_nil _ _)
  · intro hdoc
    have hblank : Text.trimChars route.doc.toList = [] := by
      by_contra hne
      rw [Route.hasDoc_eq_true_iff.2 hne] at hdoc
      cases hdoc
    rw [formatDoc, hblank]

/-! ### Files -/

/-- The second file is the first with comment lines more, all in one place. -/
structure Artifact.AddsComments (plain commented : Artifact) : Prop where
  kind : plain.kind = commented.kind
  path : plain.path = commented.path
  lines : ∃ before comments after : List (List Char),
    plain.contents.toList.splitOn '\n' = before ++ after ∧
      commented.contents.toList.splitOn '\n' = before ++ comments ++ after ∧
        ∀ comment ∈ comments, commentMark <+: comment

theorem Artifact.AddsComments.refl (artifact : Artifact) : artifact.AddsComments artifact where
  kind := rfl
  path := rfl
  lines := ⟨artifact.contents.toList.splitOn '\n', [], [], by simp⟩

theorem Template.splitOn_unlines_append (lines : List String) (text : String) :
    (unlines lines ++ text).toList.splitOn '\n' =
      (lines.flatMap fun line => line.toList.splitOn '\n') ++ text.toList.splitOn '\n' := by
  induction lines with
  | nil => rw [unlines_nil, String.empty_append, List.flatMap_nil, List.nil_append]
  | cons line lines ih =>
    have htoList : (unlines (line :: lines) ++ text).toList =
        line.toList ++ '\n' :: (unlines lines ++ text).toList := by
      simp [unlines_cons, String.toList_append]
    rw [htoList, List.splitOn_append_cons_self, ih, List.flatMap_cons, List.append_assoc]

def HandlerData.undocumented (data : HandlerData) : HandlerData :=
  { data with hasDoc := false, doc := "" }

def HandlerPlan.undocumented (plan : HandlerPlan) : HandlerPlan :=
  { plan with data := plan.data.undocumented }

/-- Where there is documentation, it consists of comment lines. -/
def HandlerData.DocCommented (data : HandlerData) : Prop :=
  data.hasDoc = true → ∀ comment ∈ data.doc.toList.splitOn '\n', commentMark <+: comment

theorem HandlerData.exists_lines (data : HandlerData) :
    ∃ before after, data.undocumented.lines = before ++ after ∧
      data.lines = before ++ data.docLines ++ after := by
  refine ⟨data.headLines ++ data.imports.map importLine ++ [")", ""],
    data.signatureLines ++ data.requestLines ++ data.callLines ++ data.answerLines ++
      ["\t\t\x7d", "\t\x7d", "\x7d"], ?_, ?_⟩
  · have hdocLines : data.undocumented.docLines = [] := rfl
    rw [lines, hdocLines, List.append_nil]
    simp only [List.append_assoc]
    rfl
  · simp only [lines, List.append_assoc]

theorem HandlerPlan.addsComments {plan : HandlerPlan} (hdoc : plan.data.DocCommented) :
    (Artifact.mk .handler plan.undocumented.path (unlines plan.undocumented.data.lines)).AddsComments
      ⟨.handler, plan.path, unlines plan.data.lines⟩ where
  kind := rfl
  path := rfl
  lines := by
    obtain ⟨before, after, hplain, hcommented⟩ := plan.data.exists_lines
    have hundocumented : plan.undocumented.data.lines = before ++ after := hplain
    have hcomments : ∀ comment ∈ plan.data.docLines.flatMap (·.toList.splitOn '\n'),
        commentMark <+: comment := by
      unfold HandlerData.docLines
      split
      case isTrue hhas => simpa using hdoc hhas
      case isFalse => simp
    refine ⟨before.flatMap (·.toList.splitOn '\n'), _, (unlines after).toList.splitOn '\n', ?_, ?_,
      hcomments⟩
    · rw [hundocumented, unlines_append, splitOn_unlines_append]
    · rw [hcommented, unlines_append, splitOn_unlines_append, List.flatMap_append]

end RouteScaffold
