import RouteScaffold.Document.Datum
import RouteScaffold.Document.Yaml.Token

/-!
The value of a YAML document.

An alias stands for the value of the anchor that was set last under its name. A text without quotes
stays unquoted in the result, so that its reader may take an empty one for an empty collection.
-/

namespace RouteScaffold.Yaml

/-- The tokens that are left, and the values of the anchors met so far, the latest first. -/
structure Source where
  tokens : List Token
  anchors : List (String × Datum) := []
  handles : List (String × String)

/-- A step that takes tokens from the front, or fails. -/
abbrev Reader := StateT Source Option

def peekToken : Reader (Option Token) := do
  pure (← get).tokens.head?

def skipToken : Reader Unit :=
  modify fun source => { source with tokens := source.tokens.drop 1 }

/-- Skips the token if it comes next. -/
def skipIf (token : Token) : Reader Bool := do
  if (← peekToken) == some token then
    skipToken
    pure true
  else pure false

def expectToken (token : Token) : Reader Unit := do
  if (← peekToken) == some token then skipToken else failure

/-- The value of a node that is not written. -/
def absent : Datum := .bare "" none

def setAnchor (name : Option String) (value : Datum) : Reader Unit :=
  match name with
  | none => pure ()
  | some name => modify fun source => { source with anchors := (name, value) :: source.anchors }

/-- The full name of a tag; the tag `!` names nothing. -/
def resolveTag (handles : List (String × String)) (handle suffix : String) : Option (Option String) :=
  if handle == "" then some (if suffix == "!" then none else some suffix)
  else (handles.lookup handle).map fun uri => some (uri ++ suffix)

/-- The anchor and the tag in front of a node. -/
structure Properties where
  anchor : Option String := none
  tag : Option (Option String) := none

def Properties.isEmpty (properties : Properties) : Bool :=
  properties.anchor.isNone && properties.tag.isNone

/-- Reads at most `fuel` properties, each kind at most once. -/
def readProperties : Nat → Properties → Reader Properties
  | 0, properties => pure properties
  | fuel + 1, properties => do
    match ← peekToken with
    | some (.anchor name) =>
      if properties.anchor.isSome then pure properties
      else
        skipToken
        readProperties fuel { properties with anchor := some name }
    | some (.tag handle suffix) =>
      if properties.tag.isSome then pure properties
      else
        skipToken
        let tag ← StateT.lift (resolveTag (← get).handles handle suffix)
        readProperties fuel { properties with tag := some tag }
    | _ => pure properties

def Token.isAmong (tokens : List Token) (token : Option Token) : Bool :=
  token.any tokens.contains

mutual
/-- Reads a node; `block` allows block collections, `indentless` a sequence at its key's column. -/
def readNode (block indentless : Bool) : Nat → Reader Datum
  | 0 => failure
  | fuel + 1 => do
    match ← peekToken with
    | some (.alias name) =>
      skipToken
      StateT.lift ((← get).anchors.lookup name)
    | _ =>
      let properties ← readProperties 2 {}
      setAnchor properties.anchor .unreadable
      let value ← readContent block indentless properties fuel
      setAnchor properties.anchor value
      pure value

/-- Reads what follows the properties of a node. -/
def readContent (block indentless : Bool) (properties : Properties) : Nat → Reader Datum
  | 0 => failure
  | fuel + 1 => do
    match ← peekToken with
    | some (.scalar text plain) =>
      skipToken
      pure (if plain then .bare text properties.tag.join else .text text)
    | some .entry =>
      if indentless then do pure (.list (← readIndentless fuel))
      else readNothing properties
    | some .flowSequence =>
      skipToken
      pure (.list (← readFlowItems true fuel))
    | some .flowMapping =>
      skipToken
      pure (.record (← readFlowFields true fuel))
    | some .blockSequence =>
      if block then do
        skipToken
        pure (.list (← readBlockItems fuel))
      else readNothing properties
    | some .blockMapping =>
      if block then do
        skipToken
        pure (.record (← readBlockFields fuel))
      else readNothing properties
    | _ => readNothing properties

/-- A node without content has to have properties. -/
def readNothing (properties : Properties) : Reader Datum :=
  if properties.isEmpty then failure else pure (.bare "" properties.tag.join)

/-- Reads a node unless one of the given tokens or the end stands in its place. -/
def readNodeUnless (enders : List Token) (block indentless : Bool) : Nat → Reader Datum
  | 0 => failure
  | fuel + 1 => do
    if Token.isAmong enders (← peekToken) then pure absent else readNode block indentless fuel

/-- Reads the entries of a block sequence up to its end. -/
def readBlockItems : Nat → Reader (List Datum)
  | 0 => failure
  | fuel + 1 => do
    if ← skipIf .entry then
      let item ← readNodeUnless [.entry, .blockEnd] true false fuel
      pure (item :: (← readBlockItems fuel))
    else
      expectToken .blockEnd
      pure []

/-- Reads the entries of a sequence that has no indentation of its own. -/
def readIndentless : Nat → Reader (List Datum)
  | 0 => failure
  | fuel + 1 => do
    if ← skipIf .entry then
      let item ← readNodeUnless [.entry, .key, .value, .blockEnd] true false fuel
      pure (item :: (← readIndentless fuel))
    else pure []

/-- Reads the fields of a block mapping up to its end. -/
def readBlockFields : Nat → Reader (List (Datum × Datum))
  | 0 => failure
  | fuel + 1 => do
    if ← skipIf .key then
      let name ← readNodeUnless [.key, .value, .blockEnd] true true fuel
      let value ←
        if ← skipIf .value then readNodeUnless [.key, .value, .blockEnd] true true fuel
        else pure absent
      pure ((name, value) :: (← readBlockFields fuel))
    else
      expectToken .blockEnd
      pure []

/-- Reads the items of a bracketed sequence up to its end. -/
def readFlowItems (first : Bool) : Nat → Reader (List Datum)
  | 0 => failure
  | fuel + 1 => do
    if ← skipIf .flowSequenceEnd then pure []
    else
      if !first then expectToken .comma
      if ← skipIf .flowSequenceEnd then pure []
      else
        let item ←
          if ← skipIf .key then readPair fuel else readNode false false fuel
        pure (item :: (← readFlowItems false fuel))

/-- Reads a key with its value as an item of a bracketed sequence. -/
def readPair : Nat → Reader Datum
  | 0 => failure
  | fuel + 1 => do
    let enders : List Token := [.value, .comma, .flowSequenceEnd]
    let name ←
      if Token.isAmong enders (← peekToken) then do
        skipToken
        pure absent
      else readNode false false fuel
    let value ←
      if ← skipIf .value then readNodeUnless [.comma, .flowSequenceEnd] false false fuel
      else pure absent
    pure (.record [(name, value)])

/-- Reads the fields of a bracketed mapping up to its end. -/
def readFlowFields (first : Bool) : Nat → Reader (List (Datum × Datum))
  | 0 => failure
  | fuel + 1 => do
    if ← skipIf .flowMappingEnd then pure []
    else
      if !first then expectToken .comma
      if ← skipIf .flowMappingEnd then pure []
      else
        let field ←
          if ← skipIf .key then do
            let name ← readNodeUnless [.value, .comma, .flowMappingEnd] false false fuel
            let value ← readFlowValue fuel
            pure (name, value)
          else do
            pure (← readNode false false fuel, absent)
        pure (field :: (← readFlowFields false fuel))

/-- Reads the value of a field of a bracketed mapping, if there is one. -/
def readFlowValue : Nat → Reader Datum
  | 0 => failure
  | fuel + 1 => do
    if ← skipIf .value then readNodeUnless [.comma, .flowMappingEnd] false false fuel
    else pure absent
end

/-! ### Documents -/

def defaultHandles : List (String × String) :=
  [("!", "!"), ("!!", "tag:yaml.org,2002:")]

/-- What the directives of a document set. -/
structure Directives where
  version : Bool := false
  handles : List (String × String) := []

/-- Takes the directives from the front; each may stand once, and the version has to be 1.1 or 1.2. -/
def Directives.read (directives : Directives) : List Token → Option (Directives × List Token)
  | .version major minor :: rest =>
    if directives.version || major != 1 || (minor != 1 && minor != 2) then none
    else { directives with version := true }.read rest
  | .tagHandle handle uri :: rest =>
    if (directives.handles.lookup handle).isSome then none
    else { directives with handles := (handle, uri) :: directives.handles }.read rest
  | rest => some (directives, rest)

def Token.isDocumentEdge : Token → Bool
  | .version .. | .tagHandle .. | .documentStart | .documentEnd => true
  | _ => false

/-- The value of the node that the tokens begin with, and the tokens after it. -/
def readRoot (handles : List (String × String)) (tokens : List Token) : Option (Datum × List Token) :=
  ((readNode true false (4 * tokens.length + 4)).run { tokens, handles }).map fun (value, source) =>
    (value, source.tokens)

/-- Reads the first document of a row of tokens. -/
def readDocument (tokens : List Token) : Option (Datum × List Token) :=
  match tokens with
  | [] => some (absent, [])
  | .documentEnd :: _ => none
  | first :: _ =>
    if first.isDocumentEdge then
      (Directives.read {} tokens).bind fun (directives, rest) =>
        match rest with
        | .documentStart :: rest =>
          if rest.head?.all Token.isDocumentEdge then some (absent, rest)
          else readRoot (directives.handles ++ defaultHandles) rest
        | _ => none
    else readRoot defaultHandles tokens

/-- The value of a text that holds one document. -/
def parse? (source : String) : Option Datum :=
  (Token.ofChars? source.toList).bind fun tokens =>
    (readDocument tokens).bind fun (value, rest) =>
      if (rest.dropWhile (· == .documentEnd)).isEmpty then some value else none

end RouteScaffold.Yaml
