import RouteScaffold.Proofs.Template.Lines
import RouteScaffold.Template.BuiltIn

/-!
# The trees of the built-in templates

The three built-in sources, read once and for all. The trees are cut where a line ends, so that each
part writes whole lines; texts are given line by line. That a source has its tree is checked by the
kernel, which reads the source and compares.

The main statements are `parse_handler`, `parse_auth` and `parse_authError`.
-/

namespace RouteScaffold.Template

/-! ### Comparing trees -/

namespace Expr

/-- Whether two expressions are the same. -/
def same : Expr → Expr → Bool
  | .var name, .var other => name == other
  | .str s, .str t => s == t
  | .int n, .int m => n == m
  | .decimal s, .decimal t => s == t
  | .bool b, .bool c => b == c
  | .none, .none => true
  | .field e name, .field f other => e.same f && name == other
  | .item e index, .item f other => e.same f && index.same other
  | .filter e name, .filter f other => e.same f && name == other
  | .not e, .not f => e.same f
  | .and e e', .and f f' => e.same f && e'.same f'
  | .or e e', .or f f' => e.same f && e'.same f'
  | .compare op e e', .compare op' f f' => op == op' && e.same f && e'.same f'
  | .cond e test Option.none, .cond f test' Option.none => e.same f && test.same test'
  | .cond e test (some e'), .cond f test' (some f') =>
    e.same f && test.same test' && e'.same f'
  | _, _ => false

theorem eq_of_same {e f : Expr} (h : e.same f = true) : e = f := by
  fun_induction same e f <;> simp_all

end Expr

namespace Node

mutual
/-- Whether two nodes are the same. -/
def same : Node → Node → Bool
  | .text s, .text t => s == t
  | .output e, .output f => e.same f
  | .branch test body otherwise, .branch test' body' otherwise' =>
    test.same test' && sameAll body body' && sameAll otherwise otherwise'
  | .loop name collection body otherwise, .loop name' collection' body' otherwise' =>
    name == name' && collection.same collection' && sameAll body body' &&
      sameAll otherwise otherwise'
  | _, _ => false

def sameAll : List Node → List Node → Bool
  | [], [] => true
  | node :: rest, node' :: rest' => node.same node' && sameAll rest rest'
  | _, _ => false
end

mutual
theorem eq_of_same : ∀ {node node' : Node}, node.same node' = true → node = node'
  | .text s, .text t, h => by
    rw [same, beq_iff_eq] at h
    rw [h]
  | .output e, .output f, h => by
    rw [same] at h
    rw [Expr.eq_of_same h]
  | .branch test body otherwise, .branch test' body' otherwise', h => by
    simp only [same, Bool.and_eq_true] at h
    obtain ⟨⟨htest, hbody⟩, hotherwise⟩ := h
    rw [Expr.eq_of_same htest, eq_of_sameAll hbody, eq_of_sameAll hotherwise]
  | .loop name collection body otherwise, .loop name' collection' body' otherwise', h => by
    simp only [same, Bool.and_eq_true, beq_iff_eq] at h
    obtain ⟨⟨⟨hname, hcollection⟩, hbody⟩, hotherwise⟩ := h
    rw [hname, Expr.eq_of_same hcollection, eq_of_sameAll hbody, eq_of_sameAll hotherwise]

theorem eq_of_sameAll : ∀ {nodes nodes' : List Node}, sameAll nodes nodes' = true → nodes = nodes'
  | [], [], _ => rfl
  | node :: rest, node' :: rest', h => by
    rw [sameAll, Bool.and_eq_true] at h
    rw [eq_of_same h.1, eq_of_sameAll h.2]
end

theorem parse?_eq_some {source : String} {nodes : List Node}
    (h : (parseChars? source.toList).any (sameAll nodes) = true) : parse? source = some nodes := by
  rw [Option.any_eq_true] at h
  obtain ⟨found, hfound, hsame⟩ := h
  rw [eq_of_sameAll hsame]
  exact hfound

end Node

namespace BuiltIn

def generatedMark : String := "// Code generated by routegen. DO NOT EDIT."

def importLoop : List Node :=
  [.loop "import" (.var "imports") [.text "\t\"", .output (.var "import"), .text (unlines ["\""])] []]

/-! ### Handlers -/

def handlerHead : List Node :=
  [.text (unlines [generatedMark, ""] ++ "package "), .output (.var "pkg_name"),
   .text (unlines
     ["", "", "import (", "\t\"net/http\"", "", "\t\"github.com/zeromicro/go-zero/rest/httpx\""])]

def handlerDoc : List Node :=
  [.branch (.var "has_doc") [.output (.var "doc"), .text (unlines [""])] []]

def handlerSignature : List Node :=
  [.text "func ", .output (.var "handler_name"),
   .text (unlines
     ["(svcCtx *svc.ServiceContext) http.HandlerFunc \x7b",
      "\treturn func(w http.ResponseWriter, r *http.Request) \x7b"])]

def handlerRequest : List Node :=
  [.branch (.var "has_request")
    [.text "\t\tvar req types.", .output (.var "request_type"),
     .text (unlines
       ["",
        "\t\tif err := httpx.Parse(r, &req); err != nil \x7b",
        "\t\t\thttpx.ErrorCtx(r.Context(), w, err)",
        "\t\t\treturn",
        "\t\t\x7d",
        ""])]
    []]

def handlerCall : List Node :=
  [.text "\t\tl := ", .output (.var "logic_package"), .text ".New", .output (.var "logic_type"),
   .text (unlines ["(r.Context(), svcCtx)"] ++ "\t\t"),
   .output (.cond (.str "resp, ") (.var "has_response") (some (.str ""))), .text "err := l.",
   .output (.var "call"), .text "(",
   .output (.cond (.str "&req") (.var "has_request") (some (.str ""))),
   .text (unlines
     [")",
      "\t\tif err != nil \x7b",
      "\t\t\thttpx.ErrorCtx(r.Context(), w, err)",
      "\t\t\x7d else \x7b"])]

def handlerAnswer : List Node :=
  [.branch (.var "has_response")
    [.text (unlines ["\t\t\thttpx.OkJsonCtx(r.Context(), w, resp)"])]
    [.text (unlines ["\t\t\thttpx.Ok(w)"])]]

def handlerTree : List Node :=
  handlerHead ++ importLoop ++ [.text (unlines [")", ""])] ++ handlerDoc ++ handlerSignature ++
    handlerRequest ++ handlerCall ++ handlerAnswer ++
      [.text (unlines ["\t\t\x7d", "\t\x7d", "\x7d"])]

/-! ### Capability interfaces -/

def authHead : List Node :=
  [.text (unlines [generatedMark, "", "package auth", "", "import (", "\t\"context\"", ""])]

def authDeclaration : List Node :=
  [.text (unlines ["\t\"github.com/zeromicro/go-zero/core/logx\"", ")", ""] ++ "// "),
   .output (.var "auth_name"), .text "Auth reports which ", .output (.var "auth_name"),
   .text (unlines [" actions the caller may perform."] ++ "type "), .output (.var "auth_name"),
   .text (unlines ["Auth interface \x7b"])]

def authMethods : List Node :=
  [.loop "method" (.var "methods")
    [.text "\t", .output (.field (.var "method") "name"), .text "(ctx context.Context, r *ent.",
     .output (.var "auth_name"), .text (unlines [") bool"])]
    []]

def authConstructor : List Node :=
  [.text (unlines ["\x7d", ""] ++ "type default"), .output (.var "auth_name"),
   .text (unlines ["Auth struct \x7b", "\tenforcer *bauth.Enforcer", "\x7d", ""] ++ "func New"),
   .output (.var "auth_name"), .text "Auth(enforcer *bauth.Enforcer) ", .output (.var "auth_name"),
   .text (unlines ["Auth \x7b"] ++ "\treturn &default"), .output (.var "auth_name"),
   .text (unlines ["Auth\x7benforcer: enforcer\x7d", "\x7d"])]

def authBodies : List Node :=
  [.loop "method" (.var "methods")
    [.text (unlines [""] ++ "func (a *default"), .output (.var "auth_name"), .text "Auth) ",
     .output (.field (.var "method") "name"), .text "(ctx context.Context, r *ent.",
     .output (.var "auth_name"),
     .text (unlines [") bool \x7b"] ++ "\tok, err := a.enforcer.Enforce(ctx, \""),
     .output (.field (.var "method") "scope"),
     .text (unlines ["\", r)", "\tif err != nil \x7b"] ++
       "\t\tlogx.WithContext(ctx).Errorf(\"authorize "),
     .output (.field (.var "method") "scope"),
     .text (unlines [": %v\", err)", "\t\treturn false", "\t\x7d", "\treturn ok", "\x7d"])]
    []]

def authTree : List Node :=
  authHead ++ importLoop ++ authDeclaration ++ authMethods ++ authConstructor ++ authBodies

/-! ### The denial catalog -/

def entryLoop : List Node :=
  [.loop "entry" (.field (.var "group") "entries")
    [.text "\t", .output (.field (.var "entry") "name"), .text " = berr.NewErrCodeMsg(",
     .output (.field (.var "entry") "code"), .text ", \"", .output (.field (.var "entry") "message"),
     .text (unlines ["\")"])]
    []]

def groupSeparator : List Node :=
  [.branch (.not (.field (.var "loop") "first")) [.text (unlines [""])] []]

def groupHead : List Node :=
  [.text "\t// ", .output (.field (.var "group") "subject"), .text ": ",
   .output (.field (.var "group") "policy_key"), .text (unlines ["::*"])]

def groupLoop : List Node :=
  [.loop "group" (.var "groups") (groupSeparator ++ groupHead ++ entryLoop) []]

def authErrorTree : List Node :=
  [.text (unlines [generatedMark, "", "package auth"])] ++
    [.branch (.var "groups")
      ([.text (unlines ["", "import ("])] ++ importLoop ++ [.text (unlines [")", "", "var ("])] ++
        groupLoop ++ [.text (unlines [")"])])
      []]

/-! ### The sources have these trees -/

-- The kernel is slow to take a text apart and to join texts. So the lines of a source are turned into
-- characters first, one after the other, and the texts of the tree are joined.
theorem parse_handler : Node.parse? handler = some handlerTree := by
  refine Node.parse?_eq_some ?_
  unfold handler
  simp only [String.toList_append]
  repeat rw [String.toList_ofList]
  simp only [handlerTree, handlerHead, importLoop, handlerDoc, handlerSignature,
    handlerRequest, handlerCall, handlerAnswer, generatedMark, unlines, String.reduceAppend]
  decide +kernel

theorem parse_auth : Node.parse? auth = some authTree := by
  refine Node.parse?_eq_some ?_
  unfold auth
  simp only [String.toList_append]
  repeat rw [String.toList_ofList]
  simp only [authTree, authHead, importLoop, authDeclaration, authMethods,
    authConstructor, authBodies, generatedMark, unlines, String.reduceAppend]
  decide +kernel

theorem parse_authError : Node.parse? authError = some authErrorTree := by
  refine Node.parse?_eq_some ?_
  unfold authError
  simp only [String.toList_append]
  repeat rw [String.toList_ofList]
  simp only [authErrorTree, entryLoop, groupSeparator, groupHead, groupLoop,
    importLoop, generatedMark, unlines, String.reduceAppend]
  decide +kernel

end BuiltIn

end RouteScaffold.Template
