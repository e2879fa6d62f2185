/-!
Log events.
-/

namespace RouteScaffold

/-- How grave an event is, from the gravest on. -/
inductive LogLevel where
  | error
  | warn
  | info
  | debug
  | trace
  deriving DecidableEq, Repr

namespace LogLevel

/-- Graver levels have smaller ranks. -/
def rank : LogLevel → Nat
  | .error => 1
  | .warn => 2
  | .info => 3
  | .debug => 4
  | .trace => 5

def text : LogLevel → String
  | .error => "ERROR"
  | .warn => "WARN"
  | .info => "INFO"
  | .debug => "DEBUG"
  | .trace => "TRACE"

end LogLevel

inductive LogValue where
  | text (s : String)
  /-- A text that is printed in quotes. -/
  | quoted (s : String)
  | nat (n : Nat)
  | bool (b : Bool)
  deriving DecidableEq, Repr

def LogValue.print : LogValue → String
  | .text s => s
  | .quoted s => "\"" ++ s ++ "\""
  | .nat n => toString n
  | .bool b => if b then "true" else "false"

structure LogEvent where
  level : LogLevel
  /-- The part of the program that speaks. -/
  target : String
  message : String
  fields : List (String × LogValue) := []
  deriving DecidableEq, Repr

end RouteScaffold
