import RouteScaffold.Log.Filter
import RouteScaffold.Text.Case

/-!
What the environment says about logging.
-/

namespace RouteScaffold

/-- The environment variables of a run. -/
abbrev Environment := List (String × String)

inductive LogFormat where
  | json
  | pretty
  deriving DecidableEq, Repr

/-- The format that a word names in any case; all other words name the pretty one. -/
def LogFormat.ofWord (word : String) : LogFormat :=
  if Text.lowercase word == "json" then .json else .pretty

structure LogSettings where
  level : String := "info"
  format : LogFormat := .pretty
  /-- Rules that come on top of the level. -/
  targetFilter : Option String := none
  includeLocation : Bool := false
  deriving DecidableEq, Repr

namespace LogSettings

def ofEnvironment (env : Environment) : LogSettings :=
  { level := (env.lookup "ROUTEGEN_LOG_LEVEL").getD "info"
    format := .ofWord ((env.lookup "ROUTEGEN_LOG_FORMAT").getD "pretty")
    targetFilter := env.lookup "ROUTEGEN_LOG_TARGET_FILTER"
    includeLocation := env.lookup "ROUTEGEN_LOG_INCLUDE_LOCATION" == some "true" }

/-- The level in any case; what is no level stands for information. -/
def logLevel (settings : LogSettings) : LogLevel :=
  match Text.lowercase settings.level with
  | "trace" => .trace
  | "debug" => .debug
  | "warn" => .warn
  | "error" => .error
  | _ => .info

/-- The rules before the target filter: those of the general variable if they can be read, else the
level. -/
def baseFilter (settings : LogSettings) (env : Environment) : LogFilter :=
  ((env.lookup "RUST_LOG").bind LogFilter.parse?).getD
    (.ofDirectives [{ threshold := settings.logLevel.rank }])

/-- The rules of the target filter without the blanks around them; empty ones do not count. -/
def targetRules (settings : LogSettings) : List String :=
  match settings.targetFilter with
  | none => []
  | some rules =>
    ((rules.toList.splitOn ',').map fun rule => String.ofList (Text.trimChars rule)).filter (· != "")

def filter (settings : LogSettings) (env : Environment) : LogFilter :=
  (settings.targetRules.filterMap LogDirective.parse?).foldl .add (settings.baseFilter env)

/-- A warning for each rule of the target filter that is none. -/
def warnings (settings : LogSettings) : List String :=
  (settings.targetRules.filter fun rule => (LogDirective.parse? rule).isNone).map fun rule =>
    "Warning: Invalid log filter directive: " ++ rule

end LogSettings

end RouteScaffold
