import RouteScaffold.Proofs.Template.BuiltIn

/-!
# The generated files, line by line

What the built-in templates make of their data, written down without a template: which lines a handler
file, an interface file and the denial catalog have. A value stands in its line as it is, also when it
looks like a tag or has quotes.

The main statement is `exists_renderer_writes_lines`: the built-in templates write these lines, for all data.
-/

namespace RouteScaffold

open Template BuiltIn

/-! ### The lines of the files -/

def importLine (package : String) : String := "\t\"" ++ package ++ "\""

namespace HandlerData

def headLines (data : HandlerData) : List String :=
  [generatedMark, "", "package " ++ data.pkgName, "", "import (", "\t\"net/http\"", "",
    "\t\"github.com/zeromicro/go-zero/rest/httpx\""]

def docLines (data : HandlerData) : List String :=
  if data.hasDoc then [data.doc] else []

def signatureLines (data : HandlerData) : List String :=
  ["func " ++ data.handlerName ++ "(svcCtx *svc.ServiceContext) http.HandlerFunc \x7b",
   "\treturn func(w http.ResponseWriter, r *http.Request) \x7b"]

/-- Declares the request and reads it. -/
def requestLines (data : HandlerData) : List String :=
  if data.hasRequest then
    ["\t\tvar req types." ++ data.requestType,
     "\t\tif err := httpx.Parse(r, &req); err != nil \x7b",
     "\t\t\thttpx.ErrorCtx(r.Context(), w, err)",
     "\t\t\treturn",
     "\t\t\x7d",
     ""]
  else []

/-- Calls the logic, with a response and an argument where the route has them. -/
def callLines (data : HandlerData) : List String :=
  ["\t\tl := " ++ data.logicPackage ++ ".New" ++ data.logicType ++ "(r.Context(), svcCtx)",
   "\t\t" ++ (if data.hasResponse then "resp, " else "") ++ "err := l." ++ data.call ++ "(" ++
     (if data.hasRequest then "&req" else "") ++ ")",
   "\t\tif err != nil \x7b",
   "\t\t\thttpx.ErrorCtx(r.Context(), w, err)",
   "\t\t\x7d else \x7b"]

def answerLines (data : HandlerData) : List String :=
  if data.hasResponse then ["\t\t\thttpx.OkJsonCtx(r.Context(), w, resp)"] else ["\t\t\thttpx.Ok(w)"]

def lines (data : HandlerData) : List String :=
  data.headLines ++ data.imports.map importLine ++ [")", ""] ++ data.docLines ++ data.signatureLines ++
    data.requestLines ++ data.callLines ++ data.answerLines ++ ["\t\t\x7d", "\t\x7d", "\x7d"]

end HandlerData

namespace AuthInterface

def headLines : List String :=
  [generatedMark, "", "package auth", "", "import (", "\t\"context\"", ""]

def declarationLines (face : AuthInterface) : List String :=
  ["\t\"github.com/zeromicro/go-zero/core/logx\"", ")", "",
   "// " ++ face.authName ++ "Auth reports which " ++ face.authName ++
     " actions the caller may perform.",
   "type " ++ face.authName ++ "Auth interface \x7b"]

/-- A capability in the interface. -/
def methodLine (face : AuthInterface) (method : AuthMethod) : String :=
  "\t" ++ method.name ++ "(ctx context.Context, r *ent." ++ face.authName ++ ") bool"

def constructorLines (face : AuthInterface) : List String :=
  ["\x7d", "",
   "type default" ++ face.authName ++ "Auth struct \x7b",
   "\tenforcer *bauth.Enforcer",
   "\x7d", "",
   "func New" ++ face.authName ++ "Auth(enforcer *bauth.Enforcer) " ++ face.authName ++ "Auth \x7b",
   "\treturn &default" ++ face.authName ++ "Auth\x7benforcer: enforcer\x7d",
   "\x7d"]

/-- The implementation of a capability: it asks the policy for the scope. -/
def bodyLines (face : AuthInterface) (method : AuthMethod) : List String :=
  ["",
   "func (a *default" ++ face.authName ++ "Auth) " ++ method.name ++ "(ctx context.Context, r *ent." ++
     face.authName ++ ") bool \x7b",
   "\tok, err := a.enforcer.Enforce(ctx, \"" ++ method.scope ++ "\", r)",
   "\tif err != nil \x7b",
   "\t\tlogx.WithContext(ctx).Errorf(\"authorize " ++ method.scope ++ ": %v\", err)",
   "\t\treturn false",
   "\t\x7d",
   "\treturn ok",
   "\x7d"]

def lines (face : AuthInterface) : List String :=
  headLines ++ face.imports.map importLine ++ face.declarationLines ++ face.methods.map face.methodLine ++
    face.constructorLines ++ face.methods.flatMap face.bodyLines

end AuthInterface

/-- The declaration of a denial error. -/
def DenialEntry.line (entry : DenialEntry) : String :=
  "\t" ++ entry.name ++ " = berr.NewErrCodeMsg(" ++ toString entry.code ++ ", \"" ++ entry.message ++ "\")"

/-- The comment that names a group in the catalog file. -/
def DenialGroup.comment (group : DenialGroup) : String :=
  "\t// " ++ group.subject ++ ": " ++ group.policyKey ++ "::*"

/-- A group in the catalog file. -/
def DenialGroup.blockLines (group : DenialGroup) : List String :=
  [group.comment] ++ group.entries.map DenialEntry.line

namespace DenialCatalog

/-- The declarations of all groups, with a blank line between two groups. -/
def varLines (catalog : DenialCatalog) : List String :=
  [""].intercalate (catalog.groups.map DenialGroup.blockLines)

def declarationLines (catalog : DenialCatalog) : List String :=
  ["", "import ("] ++ catalog.imports.map importLine ++ [")", "", "var ("] ++ catalog.varLines ++ [")"]

/-- A catalog without groups declares nothing and imports nothing. -/
def lines (catalog : DenialCatalog) : List String :=
  [generatedMark, "", "package auth"] ++
    if catalog.groups.isEmpty then [] else catalog.declarationLines

end DenialCatalog

/-! ### The parts of the templates -/

theorem Template.Value.inner_natCast (n : Nat) : (Value.int n).inner = n.repr := by
  rw [inner]
  rfl

namespace Template.Node

variable {scope : Scope}

attribute [local simp] Writes renderAll render Expr.eval Scope.find Value.entry List.lookup_cons Value.field
  Value.print Value.truth String.append_assoc

theorem writes_importLoop {imports : List String} (h : scope.find "imports" = .texts imports) :
    Writes scope importLoop (imports.map importLine) := by
  have hitems : (Expr.var "imports").eval scope = .ok (.texts imports) := congrArg Except.ok h
  rw [List.map_eq_flatMap]
  refine writes_each hitems fun position package => ?_
  simp [Scope.turn, importLine, -String.reduceAppend]

section Handler

theorem writes_handlerHead (data : HandlerData) : Writes data.scope handlerHead data.headLines := by
  simp [handlerHead, HandlerData.headLines, HandlerData.scope, -String.reduceAppend]

theorem writes_handlerDoc (data : HandlerData) : Writes data.scope handlerDoc data.docLines := by
  cases hdoc : data.hasDoc <;>
    simp [handlerDoc, HandlerData.docLines, HandlerData.scope, hdoc, -String.reduceAppend]

theorem writes_handlerSignature (data : HandlerData) :
    Writes data.scope handlerSignature data.signatureLines := by
  simp [handlerSignature, HandlerData.signatureLines, HandlerData.scope, -String.reduceAppend]

theorem writes_handlerRequest (data : HandlerData) :
    Writes data.scope handlerRequest data.requestLines := by
  cases hrequest : data.hasRequest <;>
    simp [handlerRequest, HandlerData.requestLines, HandlerData.scope, hrequest, -String.reduceAppend]

theorem writes_handlerCall (data : HandlerData) : Writes data.scope handlerCall data.callLines := by
  cases hresponse : data.hasResponse <;> cases hrequest : data.hasRequest <;>
    simp [handlerCall, HandlerData.callLines, HandlerData.scope, hresponse, hrequest,
      -String.reduceAppend]

theorem writes_handlerAnswer (data : HandlerData) :
    Writes data.scope handlerAnswer data.answerLines := by
  cases hresponse : data.hasResponse <;>
    simp [handlerAnswer, HandlerData.answerLines, HandlerData.scope, hresponse]

theorem writes_handlerTree (data : HandlerData) : Writes data.scope handlerTree data.lines := by
  refine .append (.append (.append (.append (.append (.append (.append (.append
    (writes_handlerHead data) ?imports) ?importEnd) (writes_handlerDoc data))
    (writes_handlerSignature data)) (writes_handlerRequest data)) (writes_handlerCall data))
    (writes_handlerAnswer data)) ?bodyEnd
  case imports => exact writes_importLoop (by simp [HandlerData.scope])
  case importEnd | bodyEnd => simp

end Handler

section Auth

theorem writes_authDeclaration (face : AuthInterface) :
    Writes face.scope authDeclaration face.declarationLines := by
  simp [authDeclaration, AuthInterface.declarationLines, AuthInterface.scope, -String.reduceAppend]

theorem writes_authConstructor (face : AuthInterface) :
    Writes face.scope authConstructor face.constructorLines := by
  simp [authConstructor, AuthInterface.constructorLines, AuthInterface.scope, -String.reduceAppend]

theorem eval_methods (face : AuthInterface) :
    (Expr.var "methods").eval face.scope = .ok (.list (face.methods.map AuthMethod.value)) := by
  simp [AuthInterface.scope]

theorem writes_authMethods (face : AuthInterface) :
    Writes face.scope authMethods (face.methods.map face.methodLine) := by
  rw [List.map_eq_flatMap]
  refine writes_each (eval_methods face) fun position method => ?_
  simp [Scope.turn, AuthInterface.scope, AuthMethod.value, AuthInterface.methodLine,
    -String.reduceAppend]

theorem writes_authBodies (face : AuthInterface) :
    Writes face.scope authBodies (face.methods.flatMap face.bodyLines) := by
  refine writes_each (eval_methods face) fun position method => ?_
  simp [Scope.turn, AuthInterface.scope, AuthMethod.value, AuthInterface.bodyLines,
    -String.reduceAppend]

theorem writes_authTree (face : AuthInterface) : Writes face.scope authTree face.lines := by
  refine .append (.append (.append (.append (.append ?head ?imports) (writes_authDeclaration face))
    (writes_authMethods face)) (writes_authConstructor face)) (writes_authBodies face)
  case head => simp [authHead, AuthInterface.headLines]
  case imports => exact writes_importLoop (by simp [AuthInterface.scope])

end Auth

section Catalog

variable (scope : Scope) (position length : Nat) (group : DenialGroup)

theorem writes_groupSeparator :
    Writes (scope.turn "group" position length group.value) groupSeparator
      (if position = 0 then [] else [""]) := by
  by_cases hposition : position = 0 <;> simp [Scope.turn, groupSeparator, loopState, hposition]

theorem writes_groupHead :
    Writes (scope.turn "group" position length group.value) groupHead [group.comment] := by
  simp [Scope.turn, groupHead, DenialGroup.value, DenialGroup.comment, -String.reduceAppend]

theorem writes_entryLoop :
    Writes (scope.turn "group" position length group.value) entryLoop
      (group.entries.map DenialEntry.line) := by
  have hitems : (Expr.field (.var "group") "entries").eval
      (scope.turn "group" position length group.value) =
        .ok (.list (group.entries.map DenialEntry.value)) := by
    simp [Scope.turn, DenialGroup.value]
  rw [List.map_eq_flatMap]
  refine writes_each hitems fun position entry => ?_
  simp [Scope.turn, DenialEntry.value, DenialEntry.line, Value.inner_natCast, -String.reduceAppend]

theorem eval_groups (catalog : DenialCatalog) :
    (Expr.var "groups").eval catalog.scope =
      .ok (.list (catalog.groups.map DenialGroup.value)) := by
  simp [DenialCatalog.scope]

theorem writes_groupLoop (catalog : DenialCatalog) :
    Writes catalog.scope groupLoop catalog.varLines := by
  have hturn : ∀ (position : Nat) (group : DenialGroup),
      Writes (catalog.scope.turn "group" position catalog.groups.length group.value)
        (groupSeparator ++ groupHead ++ entryLoop)
        ((if position = 0 then [] else [""]) ++ group.blockLines) := by
    intro position group
    rw [DenialGroup.blockLines, ← List.append_assoc]
    exact .append (.append (writes_groupSeparator _ _ _ _) (writes_groupHead _ _ _ _))
      (writes_entryLoop _ _ _ _)
  rw [DenialCatalog.varLines, List.intercalate_map_eq_flatMap_zipIdx]
  exact writes_loop (eval_groups catalog) hturn

theorem writes_authErrorTree (catalog : DenialCatalog) :
    Writes catalog.scope authErrorTree catalog.lines := by
  have hlines : catalog.lines = [generatedMark, "", "package auth"] ++
      if !catalog.groups.isEmpty then catalog.declarationLines else [] := by
    unfold DenialCatalog.lines
    cases catalog.groups.isEmpty <;> rfl
  have htruth : (Value.list (catalog.groups.map DenialGroup.value)).truth =
      .ok !catalog.groups.isEmpty := by
    rw [Value.truth, List.isEmpty_map]
  rw [hlines]
  refine .append ?head (writes_branch (eval_groups catalog) htruth (fun _ => ?declarations) fun _ => ?nothing)
  case declarations =>
    refine .append (.append (.append (.append ?importStart ?imports) ?importEnd)
      (writes_groupLoop catalog)) ?varEnd
    case imports => exact writes_importLoop (by simp [DenialCatalog.scope])
    all_goals simp
  all_goals simp

end Catalog

end Template.Node

/-! ### The files -/

theorem Renderer.render_of_writes {renderer : Renderer} {kind : ArtifactKind} {template : String}
    {path : Path} {scope : Scope} {nodes : List Node} {lines : List String}
    (htext : renderer.text template scope = Node.renderAll scope nodes)
    (h : Node.Writes scope nodes lines) :
    renderer.render kind template path scope = .ok { kind, path, contents := unlines lines } := by
  rw [render, htext, h]

/-- The built-in templates are in order, and whatever the data, each writes the lines that are due:
no rendering fails, and no value changes a line but where it is put in. -/
theorem exists_renderer_writes_lines :
    ∃ renderer, TemplateRegistry.builtIn.compile = .ok renderer ∧
      ∀ (kind : ArtifactKind) (path : Path),
        (∀ data : HandlerData,
          renderer.render kind handlerName path data.scope =
            .ok { kind, path, contents := unlines data.lines }) ∧
        (∀ face : AuthInterface,
          renderer.render kind authName path face.scope =
            .ok { kind, path, contents := unlines face.lines }) ∧
        ∀ catalog : DenialCatalog,
          renderer.render kind authErrorName path catalog.scope =
            .ok { kind, path, contents := unlines catalog.lines } := by
  refine ⟨.builtIn, TemplateRegistry.compile_builtIn, fun kind path => ⟨fun data => ?_, fun face => ?_,
    fun catalog => ?_⟩⟩
  · exact Renderer.render_of_writes (Renderer.text_builtIn_handler _) (Node.writes_handlerTree data)
  · exact Renderer.render_of_writes (Renderer.text_builtIn_auth _) (Node.writes_authTree face)
  · exact Renderer.render_of_writes (Renderer.text_builtIn_authError _) (Node.writes_authErrorTree catalog)

end RouteScaffold
