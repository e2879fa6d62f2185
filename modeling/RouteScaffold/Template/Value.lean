import RouteScaffold.Failure

/-!
The values that templates work on.

Looking up what is not there gives an undefined value. Printing, testing or opening it is an error,
unless it is the quiet undefined value that a conditional without an `else` leaves.
-/

namespace RouteScaffold.Template

inductive Value where
  | undefined (quiet : Bool)
  | none
  | bool (b : Bool)
  | int (n : Int)
  /-- A number that is no integer, in its written form. -/
  | decimal (text : String)
  | text (s : String)
  | list (items : List Value)
  | map (entries : List (String × Value))
  deriving Repr, Inhabited

abbrev Outcome := Except TemplateFault

/-- A text in double quotes, as it stands inside a printed list. -/
def quoted (s : String) : String :=
  let escape (c : Char) : List Char :=
    if c == '"' || c == '\\' then ['\\', c]
    else if c == '\n' then ['\\', 'n']
    else if c == '\r' then ['\\', 'r']
    else if c == '\t' then ['\\', 't']
    else [c]
  String.ofList (['"'] ++ s.toList.flatMap escape ++ ['"'])

namespace Value

mutual
/-- The printed form of a value inside a list or a map. -/
def inner : Value → String
  | .undefined _ => "undefined"
  | .none => "None"
  | .bool b => if b then "True" else "False"
  | .int n => toString n
  | .decimal digits => digits
  | .text s => quoted s
  | .list items => "[" ++ ", ".intercalate (innerItems items) ++ "]"
  | .map entries => "\x7b" ++ ", ".intercalate (innerEntries entries) ++ "\x7d"

def innerItems : List Value → List String
  | [] => []
  | v :: rest => v.inner :: innerItems rest

def innerEntries : List (String × Value) → List String
  | [] => []
  | (key, v) :: rest => (quoted key ++ ": " ++ v.inner) :: innerEntries rest
end

/-- The text that a value prints as. -/
def print : Value → Outcome String
  | .undefined true => .ok ""
  | .undefined false => .error .undefinedValue
  | .text s => .ok s
  | v => .ok v.inner

/-- Whether a value counts as true in a test. -/
def truth : Value → Outcome Bool
  | .undefined true => .ok false
  | .undefined false => .error .undefinedValue
  | .none => .ok false
  | .bool b => .ok b
  | .int n => .ok (n != 0)
  | .decimal digits => .ok (digits.toList.any fun c => '1' ≤ c && c ≤ '9')
  | .text s => .ok (s != "")
  | .list items => .ok (!items.isEmpty)
  | .map entries => .ok (!entries.isEmpty)

/-- The entry of a map under a key. -/
def entry (entries : List (String × Value)) (key : String) : Value :=
  (entries.lookup key).getD (.undefined false)

/-- The part of a value that a name selects. -/
def field (v : Value) (name : String) : Outcome Value :=
  match v with
  | .undefined _ => .error .undefinedValue
  | .map entries => .ok (entry entries name)
  | _ => .ok (.undefined false)

/-- The element of a list at a position; negative positions count from the end. -/
def nth {α : Type} (items : List α) (position : Int) : Option α :=
  if 0 ≤ position then items[position.toNat]?
  else if position.natAbs ≤ items.length then items[items.length - position.natAbs]?
  else Option.none

/-- The part of a value that an index selects. -/
def item (v index : Value) : Outcome Value :=
  match v, index with
  | .undefined _, _ => .error .undefinedValue
  | .list items, .int n => .ok ((nth items n).getD (.undefined false))
  | .text s, .int n =>
    .ok (((nth s.toList n).map fun c => .text (String.singleton c)).getD (.undefined false))
  | .map entries, .text key => .ok (entry entries key)
  | _, _ => .ok (.undefined false)

/-- The values that a loop runs over: the items of a list, the keys of a map, the letters of a text and
nothing at all where there is no value. -/
def elements : Value → Outcome (List Value)
  | .list items => .ok items
  | .map entries => .ok (entries.map fun e => .text e.1)
  | .text s => .ok (s.toList.map fun c => .text (String.singleton c))
  | .none | .undefined true => .ok []
  | .undefined false => .error .undefinedValue
  | _ => .error .invalidOperation

/-- The integer that a value counts as. -/
def number? : Value → Option Int
  | .int n => some n
  | .bool b => some (if b then 1 else 0)
  | _ => Option.none

/-- The place of a value's kind in the order of kinds. -/
def kindRank : Value → Nat
  | .undefined _ => 0
  | .none => 1
  | .bool _ => 2
  | .int _ | .decimal _ => 3
  | .text _ => 4
  | .list _ => 5
  | .map _ => 6

mutual
def compare : Value → Value → Ordering
  | .text s, .text t => Ord.compare s t
  | .decimal s, .decimal t => Ord.compare s t
  | .list items, .list others => compareItems items others
  | .map entries, .map others => compareEntries entries others
  | v, w =>
    match v.number?, w.number? with
    | some m, some n => Ord.compare m n
    | _, _ => Ord.compare v.kindRank w.kindRank

def compareItems : List Value → List Value → Ordering
  | [], [] => .eq
  | [], _ :: _ => .lt
  | _ :: _, [] => .gt
  | v :: rest, w :: others => (v.compare w).then (compareItems rest others)

def compareEntries : List (String × Value) → List (String × Value) → Ordering
  | [], [] => .eq
  | [], _ :: _ => .lt
  | _ :: _, [] => .gt
  | (key, v) :: rest, (other, w) :: others =>
    ((Ord.compare key other).then (v.compare w)).then (compareEntries rest others)
end

end Value

end RouteScaffold.Template
