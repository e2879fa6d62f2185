/-!
The built-in templates.
-/

namespace RouteScaffold.Template.BuiltIn

/-- The template of a handler file. -/
def handlerName : String := "handler.tpl"

/-- The template of a capability interface. -/
def authName : String := "auth.tpl"

/-- The template of the denial catalog. -/
def authErrorName : String := "auth_error.tpl"

/-- Decodes the request when there is one, calls the logic and answers with its response. -/
def handler : String :=
  "// Code generated by routegen. DO NOT EDIT.\n" ++
  "\n" ++
  "package \x7b\x7b pkg_name \x7d\x7d\n" ++
  "\n" ++
  "import (\n" ++
  "\t\"net/http\"\n" ++
  "\n" ++
  "\t\"github.com/zeromicro/go-zero/rest/httpx\"\n" ++
  "\x7b% for import in imports %\x7d\n" ++
  "\t\"\x7b\x7b import \x7d\x7d\"\n" ++
  "\x7b% endfor %\x7d\n" ++
  ")\n" ++
  "\n" ++
  "\x7b% if has_doc %\x7d\n" ++
  "\x7b\x7b doc \x7d\x7d\n" ++
  "\x7b% endif %\x7d\n" ++
  "func \x7b\x7b handler_name \x7d\x7d(svcCtx *svc.ServiceContext) http.HandlerFunc \x7b\n" ++
  "\treturn func(w http.ResponseWriter, r *http.Request) \x7b\n" ++
  "\x7b% if has_request %\x7d\n" ++
  "\t\tvar req types.\x7b\x7b request_type \x7d\x7d\n" ++
  "\t\tif err := httpx.Parse(r, &req); err != nil \x7b\n" ++
  "\t\t\thttpx.ErrorCtx(r.Context(), w, err)\n" ++
  "\t\t\treturn\n" ++
  "\t\t\x7d\n" ++
  "\n" ++
  "\x7b% endif %\x7d\n" ++
  "\t\tl := \x7b\x7b logic_package \x7d\x7d.New\x7b\x7b logic_type \x7d\x7d(r.Context(), svcCtx)\n" ++
  "\t\t\x7b\x7b \"resp, \" if has_response else \"\" \x7d\x7derr := l.\x7b\x7b call \x7d\x7d(\x7b\x7b \"&req\" if has_request else \"\" \x7d\x7d)\n" ++
  "\t\tif err != nil \x7b\n" ++
  "\t\t\thttpx.ErrorCtx(r.Context(), w, err)\n" ++
  "\t\t\x7d else \x7b\n" ++
  "\x7b% if has_response %\x7d\n" ++
  "\t\t\thttpx.OkJsonCtx(r.Context(), w, resp)\n" ++
  "\x7b% else %\x7d\n" ++
  "\t\t\thttpx.Ok(w)\n" ++
  "\x7b% endif %\x7d\n" ++
  "\t\t\x7d\n" ++
  "\t\x7d\n" ++
  "\x7d\n"

/-- Declares the capabilities of a subject and checks each against the policy. -/
def auth : String :=
  "// Code generated by routegen. DO NOT EDIT.\n" ++
  "\n" ++
  "package auth\n" ++
  "\n" ++
  "import (\n" ++
  "\t\"context\"\n" ++
  "\n" ++
  "\x7b% for import in imports %\x7d\n" ++
  "\t\"\x7b\x7b import \x7d\x7d\"\n" ++
  "\x7b% endfor %\x7d\n" ++
  "\t\"github.com/zeromicro/go-zero/core/logx\"\n" ++
  ")\n" ++
  "\n" ++
  "// \x7b\x7b auth_name \x7d\x7dAuth reports which \x7b\x7b auth_name \x7d\x7d actions the caller may perform.\n" ++
  "type \x7b\x7b auth_name \x7d\x7dAuth interface \x7b\n" ++
  "\x7b% for method in methods %\x7d\n" ++
  "\t\x7b\x7b method.name \x7d\x7d(ctx context.Context, r *ent.\x7b\x7b auth_name \x7d\x7d) bool\n" ++
  "\x7b% endfor %\x7d\n" ++
  "\x7d\n" ++
  "\n" ++
  "type default\x7b\x7b auth_name \x7d\x7dAuth struct \x7b\n" ++
  "\tenforcer *bauth.Enforcer\n" ++
  "\x7d\n" ++
  "\n" ++
  "func New\x7b\x7b auth_name \x7d\x7dAuth(enforcer *bauth.Enforcer) \x7b\x7b auth_name \x7d\x7dAuth \x7b\n" ++
  "\treturn &default\x7b\x7b auth_name \x7d\x7dAuth\x7benforcer: enforcer\x7d\n" ++
  "\x7d\n" ++
  "\x7b% for method in methods %\x7d\n" ++
  "\n" ++
  "func (a *default\x7b\x7b auth_name \x7d\x7dAuth) \x7b\x7b method.name \x7d\x7d(ctx context.Context, r *ent.\x7b\x7b auth_name \x7d\x7d) bool \x7b\n" ++
  "\tok, err := a.enforcer.Enforce(ctx, \"\x7b\x7b method.scope \x7d\x7d\", r)\n" ++
  "\tif err != nil \x7b\n" ++
  "\t\tlogx.WithContext(ctx).Errorf(\"authorize \x7b\x7b method.scope \x7d\x7d: %v\", err)\n" ++
  "\t\treturn false\n" ++
  "\t\x7d\n" ++
  "\treturn ok\n" ++
  "\x7d\n" ++
  "\x7b% endfor %\x7d\n"

/-- Declares the coded error of every denied action. -/
def authError : String :=
  "// Code generated by routegen. DO NOT EDIT.\n" ++
  "\n" ++
  "package auth\n" ++
  "\x7b% if groups %\x7d\n" ++
  "\n" ++
  "import (\n" ++
  "\x7b% for import in imports %\x7d\n" ++
  "\t\"\x7b\x7b import \x7d\x7d\"\n" ++
  "\x7b% endfor %\x7d\n" ++
  ")\n" ++
  "\n" ++
  "var (\n" ++
  "\x7b% for group in groups %\x7d\n" ++
  "\x7b% if not loop.first %\x7d\n" ++
  "\n" ++
  "\x7b% endif %\x7d\n" ++
  "\t// \x7b\x7b group.subject \x7d\x7d: \x7b\x7b group.policy_key \x7d\x7d::*\n" ++
  "\x7b% for entry in group.entries %\x7d\n" ++
  "\t\x7b\x7b entry.name \x7d\x7d = berr.NewErrCodeMsg(\x7b\x7b entry.code \x7d\x7d, \"\x7b\x7b entry.message \x7d\x7d\")\n" ++
  "\x7b% endfor %\x7d\n" ++
  "\x7b% endfor %\x7d\n" ++
  ")\n" ++
  "\x7b% endif %\x7d\n"

/-- The built-in templates with their names. -/
def all : List (String × String) :=
  [(handlerName, handler), (authName, auth), (authErrorName, authError)]

end RouteScaffold.Template.BuiltIn
