import RouteScaffold.Template.Piece

/-!
The syntax tree of a template, read from its pieces.
-/

namespace RouteScaffold.Template

inductive Comparison where
  | eq
  | ne
  | lt
  | le
  | gt
  | ge
  deriving DecidableEq, Repr

inductive Expr where
  | var (name : String)
  | str (s : String)
  | int (n : Nat)
  | decimal (text : String)
  | bool (b : Bool)
  | none
  | field (e : Expr) (name : String)
  | item (e index : Expr)
  | filter (e : Expr) (name : String)
  | not (e : Expr)
  | and (left right : Expr)
  | or (left right : Expr)
  | compare (op : Comparison) (left right : Expr)
  /-- The value of `e` if `test` holds, else that of `otherwise`. -/
  | cond (e test : Expr) (otherwise : Option Expr)
  deriving Repr

inductive Node where
  | text (s : String)
  | output (e : Expr)
  | branch (test : Expr) (body otherwise : List Node)
  | loop (name : String) (collection : Expr) (body otherwise : List Node)
  deriving Repr

/-- Takes one symbol off the front. -/
def expectSym (text : String) : List Token → Option (List Token)
  | .sym found :: rest => if found == text then some rest else none
  | _ => none

def comparisonOf? : String → Option Comparison
  | "==" => some .eq
  | "!=" => some .ne
  | "<" => some .lt
  | "<=" => some .le
  | ">" => some .gt
  | ">=" => some .ge
  | _ => none

namespace Expr

/-- A name on its own; some names are constants. -/
def ofIdent : String → Expr
  | "true" | "True" => .bool true
  | "false" | "False" => .bool false
  | "none" | "None" => .none
  | name => .var name

mutual
/-- Reads a whole expression, with its conditionals. -/
def read : Nat → List Token → Option (Expr × List Token)
  | 0, _ => Option.none
  | fuel + 1, tokens => (readOr fuel tokens).bind fun (e, rest) => readConds fuel e rest

/-- Reads the conditionals that follow an expression. -/
def readConds : Nat → Expr → List Token → Option (Expr × List Token)
  | 0, _, _ => Option.none
  | fuel + 1, e, .ident "if" :: rest =>
    (readOr fuel rest).bind fun (test, rest) =>
      match rest with
      | .ident "else" :: rest =>
        (read fuel rest).bind fun (otherwise, rest) =>
          readConds fuel (.cond e test (some otherwise)) rest
      | rest => readConds fuel (.cond e test Option.none) rest
  | _ + 1, e, rest => some (e, rest)

def readOr : Nat → List Token → Option (Expr × List Token)
  | 0, _ => Option.none
  | fuel + 1, tokens => (readAnd fuel tokens).bind fun (e, rest) => readOrs fuel e rest

def readOrs : Nat → Expr → List Token → Option (Expr × List Token)
  | 0, _, _ => Option.none
  | fuel + 1, e, .ident "or" :: rest =>
    (readAnd fuel rest).bind fun (right, rest) => readOrs fuel (.or e right) rest
  | _ + 1, e, rest => some (e, rest)

def readAnd : Nat → List Token → Option (Expr × List Token)
  | 0, _ => Option.none
  | fuel + 1, tokens => (readNot fuel tokens).bind fun (e, rest) => readAnds fuel e rest

def readAnds : Nat → Expr → List Token → Option (Expr × List Token)
  | 0, _, _ => Option.none
  | fuel + 1, e, .ident "and" :: rest =>
    (readNot fuel rest).bind fun (right, rest) => readAnds fuel (.and e right) rest
  | _ + 1, e, rest => some (e, rest)

def readNot : Nat → List Token → Option (Expr × List Token)
  | 0, _ => Option.none
  | fuel + 1, .ident "not" :: rest => (readNot fuel rest).map fun (e, rest) => (.not e, rest)
  | fuel + 1, tokens => (readPostfix fuel tokens).bind fun (e, rest) => readComparisons fuel e rest

def readComparisons : Nat → Expr → List Token → Option (Expr × List Token)
  | 0, _, _ => Option.none
  | fuel + 1, e, .sym text :: rest =>
    match comparisonOf? text with
    | some op =>
      (readPostfix fuel rest).bind fun (right, rest) =>
        readComparisons fuel (.compare op e right) rest
    | Option.none => some (e, .sym text :: rest)
  | _ + 1, e, rest => some (e, rest)

/-- Reads an operand with the fields, indices and filters that follow it. -/
def readPostfix : Nat → List Token → Option (Expr × List Token)
  | 0, _ => Option.none
  | fuel + 1, tokens => (readPrimary fuel tokens).bind fun (e, rest) => readSuffixes fuel e rest

def readSuffixes : Nat → Expr → List Token → Option (Expr × List Token)
  | 0, _, _ => Option.none
  | fuel + 1, e, .sym "." :: .ident name :: rest => readSuffixes fuel (.field e name) rest
  | fuel + 1, e, .sym "." :: .int n :: rest => readSuffixes fuel (.item e (.int n)) rest
  | _ + 1, _, .sym "." :: _ => Option.none
  | fuel + 1, e, .sym "[" :: rest =>
    (read fuel rest).bind fun (index, rest) =>
      (expectSym "]" rest).bind fun rest => readSuffixes fuel (.item e index) rest
  | fuel + 1, e, .sym "|" :: .ident name :: .sym "(" :: rest =>
    (readArguments fuel rest).bind fun rest => readSuffixes fuel (.filter e name) rest
  | fuel + 1, e, .sym "|" :: .ident name :: rest => readSuffixes fuel (.filter e name) rest
  | _ + 1, e, rest => some (e, rest)

/-- Reads the arguments of a filter up to the closing bracket. -/
def readArguments : Nat → List Token → Option (List Token)
  | 0, _ => Option.none
  | _ + 1, .sym ")" :: rest => some rest
  | fuel + 1, tokens =>
    (read fuel tokens).bind fun (_, rest) =>
      match rest with
      | .sym "," :: rest => readArguments fuel rest
      | .sym ")" :: rest => some rest
      | _ => Option.none

def readPrimary : Nat → List Token → Option (Expr × List Token)
  | 0, _ => Option.none
  | _ + 1, .ident name :: rest => some (ofIdent name, rest)
  | _ + 1, .str s :: rest => some (.str s, rest)
  | _ + 1, .int n :: rest => some (.int n, rest)
  | _ + 1, .decimal text :: rest => some (.decimal text, rest)
  | fuel + 1, .sym "(" :: rest =>
    (read fuel rest).bind fun (e, rest) => (expectSym ")" rest).map fun rest => (e, rest)
  | _ + 1, _ => Option.none
end

/-- Steps enough to read an expression of the given tokens. -/
def fuelFor (tokens : List Token) : Nat := 12 * (tokens.length + 1)

/-- Reads an expression that takes up all tokens. -/
def ofTokens? (tokens : List Token) : Option Expr :=
  match read (fuelFor tokens) tokens with
  | some (e, []) => some e
  | _ => Option.none

/-- Reads the collection of a loop; a conditional has to stand in brackets there. -/
def collection? (tokens : List Token) : Option Expr :=
  match readOr (fuelFor tokens) tokens with
  | some (e, []) => some e
  | _ => Option.none

end Expr

/-- What a statement says. -/
inductive Statement where
  | ifThen (test : Expr)
  | elseIf (test : Expr)
  | otherwise
  | endIf
  | forEach (name : String) (collection : Expr)
  | endFor
  deriving Repr

def Statement.ofTokens? : List Token → Option Statement
  | .ident "if" :: test => (Expr.ofTokens? test).map .ifThen
  | .ident "elif" :: test => (Expr.ofTokens? test).map .elseIf
  | [.ident "else"] => some .otherwise
  | [.ident "endif"] => some .endIf
  | .ident "for" :: .ident name :: .ident "in" :: collection =>
    (Expr.collection? collection).map (.forEach name)
  | [.ident "endfor"] => some .endFor
  | _ => none

namespace Node

mutual
/-- Reads nodes up to the end or to a statement that belongs to an open block; gives back that
statement and the pieces after it. -/
def readSome : Nat → List Piece → Option (List Node × Option Statement × List Piece)
  | 0, _ => none
  | _ + 1, [] => some ([], none, [])
  | fuel + 1, .text s :: rest =>
    (readSome fuel rest).map fun (nodes, more) => (.text s :: nodes, more)
  | fuel + 1, .output tokens :: rest =>
    (Expr.ofTokens? tokens).bind fun e =>
      (readSome fuel rest).map fun (nodes, more) => (.output e :: nodes, more)
  | fuel + 1, .statement tokens :: rest =>
    (Statement.ofTokens? tokens).bind fun
      | .ifThen test =>
        (readBranch fuel test rest).bind fun (node, rest) =>
          (readSome fuel rest).map fun (nodes, more) => (node :: nodes, more)
      | .forEach name collection =>
        (readLoop fuel name collection rest).bind fun (node, rest) =>
          (readSome fuel rest).map fun (nodes, more) => (node :: nodes, more)
      | other => some ([], some other, rest)

/-- Reads the arms of a branch up to its end. -/
def readBranch : Nat → Expr → List Piece → Option (Node × List Piece)
  | 0, _, _ => none
  | fuel + 1, test, pieces =>
    (readSome fuel pieces).bind fun (body, stop, rest) =>
      match stop with
      | some .endIf => some (.branch test body [], rest)
      | some (.elseIf next) =>
        (readBranch fuel next rest).map fun (node, rest) => (.branch test body [node], rest)
      | some .otherwise =>
        (readSome fuel rest).bind fun (otherwise, stop, rest) =>
          match stop with
          | some .endIf => some (.branch test body otherwise, rest)
          | _ => none
      | _ => none

/-- Reads the body of a loop up to its end. -/
def readLoop : Nat → String → Expr → List Piece → Option (Node × List Piece)
  | 0, _, _, _ => none
  | fuel + 1, name, collection, pieces =>
    (readSome fuel pieces).bind fun (body, stop, rest) =>
      match stop with
      | some .endFor => some (.loop name collection body [], rest)
      | some .otherwise =>
        (readSome fuel rest).bind fun (otherwise, stop, rest) =>
          match stop with
          | some .endFor => some (.loop name collection body otherwise, rest)
          | _ => none
      | _ => none
end

/-- The nodes of a template source, if it has the syntax of a template. -/
def parseChars? (source : List Char) : Option (List Node) :=
  (Piece.ofChars? source).bind fun pieces =>
    match readSome (2 * pieces.length + 2) pieces with
    | some (nodes, none, _) => some nodes
    | _ => none

def parse? (source : String) : Option (List Node) :=
  parseChars? source.toList

end Node

end RouteScaffold.Template
