import RouteScaffold.Log.Event
import RouteScaffold.Text.Blank

/-!
Which events are shown: rules that set a level for the events of a target.

A rule is written `target=level`, with either part left out, and may ask for fields as in
`target[{field}]=level`. An event is judged by the most specific rule that is about it. Rules for
spans are read and have no effect, for no event happens inside a span.
-/

namespace RouteScaffold

/-- The gravest levels that a rule lets through: all events of at most this rank. -/
abbrev LogThreshold := Nat

/-- A rule as written. -/
structure LogDirective where
  target : Option String := none
  inSpan : Bool := false
  /-- The fields asked for, and whether a value is asked for. -/
  fields : List (String × Bool) := []
  threshold : LogThreshold := LogLevel.trace.rank
  deriving DecidableEq, Repr

namespace LogDirective

/-- The names of thresholds, from the most quiet on. -/
def thresholdNames : List String := ["off", "error", "warn", "info", "debug", "trace"]

/-- A threshold by number, by name in any case, or empty for errors only. -/
def threshold? (s : List Char) : Option LogThreshold :=
  let digits := if s.head? == some '+' then s.drop 1 else s
  if !digits.isEmpty && digits.all Char.isDigit then
    let n := digits.foldl (fun n c => n * 10 + (c.toNat - '0'.toNat)) 0
    if n ≤ LogLevel.trace.rank then some n else none
  else if s.isEmpty then some LogLevel.error.rank
  else thresholdNames.idxOf? (String.ofList (s.map Char.toLower))

/-- The threshold behind an equals sign; an empty one shows everything. -/
def thresholdAfterTarget? (s : List Char) : Option LogThreshold :=
  if s.isEmpty then some LogLevel.trace.rank else threshold? s

/-- Characters that a rule without a span may begin with. -/
def isTargetStart (c : Char) : Bool :=
  c.isAlphanum || c == '-' || c == ':' || c == '_' || (0x80 ≤ c.toNat && !Text.isBlank c)

/-- A field as written, with its value cut off; an empty one is refused. -/
def field? (s : List Char) : Option (String × Bool) :=
  if s.isEmpty then none
  else some (String.ofList (s.takeWhile (· != '=')), s.contains '=')

/-- Reads what may follow the brackets: a threshold. -/
def readThreshold (directive : LogDirective) : List Char → Option LogDirective
  | [] => some directive
  | '=' :: level => (thresholdAfterTarget? level).map fun threshold => { directive with threshold }
  | _ => none

/-- Reads the brackets of a rule, whose opening has been read. -/
def readBrackets (directive : LogDirective) (s : List Char) : Option LogDirective :=
  let isEdge (c : Char) : Bool := c == ']' || c == '{'
  let span := s.takeWhile (!isEdge ·)
  match s.dropWhile (!isEdge ·) with
  | ']' :: rest => readThreshold { directive with inSpan := true } rest
  | '{' :: rest =>
    match rest.dropWhile (· != '}') with
    | '}' :: ']' :: after =>
      (((rest.takeWhile (· != '}')).splitOn ',').mapM field?).bind fun fields =>
        readThreshold { directive with inSpan := !span.isEmpty, fields } after
    | _ => none
  | _ => none

/-- Reads a rule, given it with and without the blanks around it. A single word with its blanks is a
threshold if it names one, else a target. -/
def ofChars? (written core : List Char) : Option LogDirective :=
  match core with
  | [] => none
  | '[' :: rest => readBrackets {} rest
  | c :: _ =>
    if !isTargetStart c then none
    else
      let isEdge (c : Char) : Bool := c == '=' || c == '['
      let target := some (String.ofList (core.takeWhile (!isEdge ·)))
      match core.dropWhile (!isEdge ·) with
      | [] =>
        match threshold? written with
        | some threshold => some { threshold }
        | none => some { target := some (String.ofList written) }
      | '[' :: rest => readBrackets { target } rest
      | _ :: level =>
        (thresholdAfterTarget? level).map fun threshold => { target, threshold }

/-- Reads a rule; around one with an equals sign there may be no blanks. -/
def parse? (s : String) : Option LogDirective :=
  let core := Text.trimChars s.toList
  if core.contains '=' && core != s.toList then none else ofChars? s.toList core

end LogDirective

/-- A rule about events. -/
structure LogRule where
  target : Option String
  fields : List String
  threshold : LogThreshold
  deriving DecidableEq, Repr

/-- The rule of a directive, unless it is about spans. -/
def LogDirective.rule? (directive : LogDirective) : Option LogRule :=
  if directive.inSpan || directive.fields.any Prod.snd then none
  else
    some
      { target := directive.target
        fields := directive.fields.map Prod.fst
        threshold := directive.threshold }

namespace LogRule

/-- Whether a rule is about an event: the target begins as it says, and its fields are there. -/
def concerns (rule : LogRule) (event : LogEvent) : Bool :=
  rule.target.all (fun target => target.toList.isPrefixOf event.target.toList) &&
    rule.fields.all fun name => name == "message" || (event.fields.lookup name).isSome

/-- How specific a rule is: with a target, the length of the target, the number of fields. -/
def specificity (rule : LogRule) : Nat × Nat × Nat :=
  (if rule.target.isSome then 1 else 0, (rule.target.getD "").utf8ByteSize, rule.fields.length)

/-- Whether `rule` is at least as specific as `other`. -/
def atLeast (rule other : LogRule) : Bool :=
  let (a, b, c) := rule.specificity
  let (x, y, z) := other.specificity
  x < a || (x == a && (y < b || (y == b && z ≤ c)))

end LogRule

/-- Rules in the order in which they were given. -/
structure LogFilter where
  rules : List LogRule
  deriving DecidableEq, Repr

namespace LogFilter

/-- The filter of some rules; none at all show errors only. -/
def ofDirectives (directives : List LogDirective) : LogFilter :=
  if directives.isEmpty then ⟨[{ target := none, fields := [], threshold := LogLevel.error.rank }]⟩
  else ⟨directives.filterMap (·.rule?)⟩

def add (filter : LogFilter) (directive : LogDirective) : LogFilter :=
  ⟨filter.rules ++ directive.rule?.toList⟩

/-- The most specific rule about an event, of equally specific ones the last. -/
def ruleFor (filter : LogFilter) (event : LogEvent) : Option LogRule :=
  (filter.rules.filter (·.concerns event)).foldl
    (fun best rule =>
      match best with
      | some other => if rule.atLeast other then some rule else some other
      | none => some rule)
    none

def shows (filter : LogFilter) (event : LogEvent) : Bool :=
  (filter.ruleFor event).any fun rule => event.level.rank ≤ rule.threshold

/-- The filter that a list of rules between commas writes. -/
def parse? (s : String) : Option LogFilter :=
  let parts := (s.toList.splitOn ',').filter (!·.isEmpty)
  (parts.mapM fun part => LogDirective.parse? (String.ofList part)).map ofDirectives

end LogFilter

end RouteScaffold
