import SearchTemplate.Yaml.Node.Basic
import SearchTemplate.Yaml.Timestamp
import SearchTemplate.Yaml.Token.Basic

/-!
# Reading nodes

`Document.ofTokens?` reads the one document of a token list. A stream without a document has no
root. The grammar is that of YAML 1.1: a missing key, value or item is an empty plain scalar, and
a pair in brackets is a mapping of its own.
-/

namespace SearchTemplate.Yaml

namespace Parser

structure State where
  tokens : List Token
  /-- The meanings of tag handles. -/
  handles : List (Text × Text) := []
  /-- The anchors so far, also of nodes that are still open. -/
  anchors : List Text := []
  /-- The finished nodes with anchors. -/
  anchored : List (Text × Node) := []

end Parser

abbrev Parser := StateT Parser.State (Except Fault)

namespace Parser

variable {α : Type}

def fail : Parser α := throw .malformed

/-- The next token, which is left in place. Reading stops at a broken one. -/
def peek : Parser Token := do
  match (← get).tokens with
  | [] => fail
  | .broken fault :: _ => throw fault
  | token :: _ => return token

def advance : Parser Unit := modify fun s => { s with tokens := s.tokens.drop 1 }

/-- Takes the next token if it is the given one. -/
def accept (token : Token) : Parser Bool := do
  if (← peek) = token then
    advance
    return true
  else return false

def expect (token : Token) : Parser Unit := do
  if !(← accept token) then fail

/-- The next token is one of those listed. -/
def at? (tokens : List Token) : Parser Bool := return tokens.contains (← peek)

/-! ## Properties of nodes -/

def acceptAnchor : Parser (Option Text) := do
  match ← peek with
  | .anchor name =>
    advance
    return some name
  | _ => return none

def acceptTag : Parser (Option WrittenTag) := do
  match ← peek with
  | .tag written =>
    advance
    return some written
  | _ => return none

/-- An anchor and a tag in either order, each optional. -/
def properties : Parser (Option Text × Option WrittenTag) := do
  match ← acceptAnchor with
  | some name => return (some name, ← acceptTag)
  | none =>
    match ← acceptTag with
    | some tag => return (← acceptAnchor, some tag)
    | none => return (none, none)

/-- The full name of a tag. -/
def resolveTag (written : WrittenTag) : Parser Text := do
  match written.handle with
  | none => return written.suffix
  | some handle =>
    match (← get).handles.lookup handle with
    | some meaning => return meaning ++ written.suffix
    | none => fail

/-- The name of the tag that leaves the kind of value open. -/
def openTag : Text := [.char '!']

def tagOr (default : Tag) : Option Text → Tag
  | none => default
  | some name => if name = openTag then default else .ofName name

def scalarNode (tag : Option Text) (text : Text) (plain : Bool) : Node :=
  if (plain && tag.isNone) || tag = some openTag then .scalar (.ofPlain text) text
  else .scalar (tagOr .str tag) text

/-- Makes an anchor known. No two nodes may have the same. -/
def declare : Option Text → Parser Unit
  | none => return
  | some name => do
    if (← get).anchors.contains name then fail
    modify fun s => { s with anchors := name :: s.anchors }

def finish (anchor : Option Text) (node : Node) : Parser Node := do
  match anchor with
  | none => return node
  | some name =>
    modify fun s => { s with anchored := (name, node) :: s.anchored }
    return node

/-- Where a node stands, which decides what it may be. -/
inductive Place where
  | flow
  | block
  /-- A block sequence may start without being indented further. -/
  | entry
  deriving DecidableEq

/-! ## Nodes -/

mutual

/-- A node. The calls inside of one another are at most `fuel`. -/
def node (place : Place) : Nat → Parser Node
  | 0 => fail
  | fuel + 1 => do
    match ← peek with
    | .alias name =>
      advance
      if !(← get).anchors.contains name then fail
      return .alias name
    | _ =>
      let (anchor, written) ← properties
      let tag ← written.mapM resolveTag
      let block := place ≠ .flow
      match ← peek with
      | .blockEntry =>
        if place = .entry then
          declare anchor
          finish anchor (.sequence (tagOr .seq tag) (← indentlessItems fuel))
        else emptyNode anchor tag
      | .scalar text plain =>
        advance
        declare anchor
        finish anchor (scalarNode tag text plain)
      | .flowSequenceStart =>
        advance
        declare anchor
        finish anchor (.sequence (tagOr .seq tag) (← flowItems true fuel))
      | .flowMappingStart =>
        advance
        declare anchor
        finish anchor (.mapping (tagOr .map tag) (← flowEntries true fuel))
      | .blockSequenceStart =>
        if block then
          advance
          declare anchor
          finish anchor (.sequence (tagOr .seq tag) (← blockItems fuel))
        else emptyNode anchor tag
      | .blockMappingStart =>
        if block then
          advance
          declare anchor
          finish anchor (.mapping (tagOr .map tag) (← blockEntries fuel))
        else emptyNode anchor tag
      | _ => emptyNode anchor tag

/-- A node of nothing but an anchor or a tag. -/
def emptyNode (anchor : Option Text) (tag : Option Text) : Parser Node := do
  if anchor.isNone ∧ tag.isNone then fail
  declare anchor
  finish anchor (scalarNode tag [] true)

/-- A node, or an empty one before the tokens that may follow it. -/
def nodeBefore (place : Place) (ends : List Token) : Nat → Parser Node
  | 0 => fail
  | fuel + 1 => do
    if ← at? ends then return .empty else node place fuel

/-- The items of a block sequence up to its end. -/
def blockItems : Nat → Parser (List Node)
  | 0 => fail
  | fuel + 1 => do
    if ← accept .blockEntry then
      let item ← nodeBefore .block [.blockEntry, .blockEnd] fuel
      return item :: (← blockItems fuel)
    else
      expect .blockEnd
      return []

/-- The items of a block sequence that is not indented further than its key. -/
def indentlessItems : Nat → Parser (List Node)
  | 0 => fail
  | fuel + 1 => do
    if ← accept .blockEntry then
      let item ← nodeBefore .block [.blockEntry, .key, .value, .blockEnd] fuel
      return item :: (← indentlessItems fuel)
    else return []

/-- The entries of a block mapping up to its end. -/
def blockEntries : Nat → Parser (List (Node × Node))
  | 0 => fail
  | fuel + 1 => do
    if ← accept .key then
      let key ← nodeBefore .entry [.key, .value, .blockEnd] fuel
      let value ← optionalValue .entry [.key, .value, .blockEnd] fuel
      return (key, value) :: (← blockEntries fuel)
    else
      expect .blockEnd
      return []

/-- The value after a key, which may be missing. -/
def optionalValue (place : Place) (ends : List Token) : Nat → Parser Node
  | 0 => fail
  | fuel + 1 => do
    if ← accept .value then nodeBefore place ends fuel else return .empty

/-- The items of a sequence in brackets up to the closing one. Items are separated. -/
def flowItems (first : Bool) : Nat → Parser (List Node)
  | 0 => fail
  | fuel + 1 => do
    if ← accept .flowSequenceEnd then return []
    if !first then expect .flowEntry
    if ← accept .key then
      let key ← nodeBefore .flow [.value, .flowEntry, .flowSequenceEnd] fuel
      let value ← optionalValue .flow [.flowEntry, .flowSequenceEnd] fuel
      return .mapping .map [(key, value)] :: (← flowItems false fuel)
    else if ← accept .flowSequenceEnd then return []
    else
      let item ← node .flow fuel
      return item :: (← flowItems false fuel)

/-- The entries of a mapping in brackets up to the closing one. -/
def flowEntries (first : Bool) : Nat → Parser (List (Node × Node))
  | 0 => fail
  | fuel + 1 => do
    if ← accept .flowMappingEnd then return []
    if !first then expect .flowEntry
    if ← accept .key then
      let key ← nodeBefore .flow [.value, .flowEntry, .flowMappingEnd] fuel
      let value ← optionalValue .flow [.flowEntry, .flowMappingEnd] fuel
      return (key, value) :: (← flowEntries false fuel)
    else if ← accept .flowMappingEnd then return []
    else
      let key ← node .flow fuel
      return (key, .empty) :: (← flowEntries false fuel)

end

/-! ## Documents -/

/-- Reads directives, given whether a version was found and the handles with meanings so far. -/
def directives : Nat → Bool → List (Text × Text) → Parser (List (Text × Text))
  | 0, _, _ => fail
  | fuel + 1, versioned, handles => do
    match ← peek with
    | .versionDirective major =>
      if versioned ∨ major ≠ 1 then fail
      advance
      directives fuel true handles
    | .tagDirective handle meaning =>
      if (handles.lookup handle).isSome then fail
      advance
      directives fuel versioned ((handle, meaning) :: handles)
    | .otherDirective =>
      advance
      directives fuel versioned handles
    | _ => return handles

/-- The handles that need no directive. -/
def defaultHandles : List (Text × Text) :=
  [(.ofString "!", .ofString "!"), (.ofString "!!", Tag.standardPrefix)]

/-- The content of a document after its marker. -/
def content (fuel : Nat) : Parser Node := do
  match ← peek with
  | .versionDirective _ => return .empty
  | .tagDirective _ _ => return .empty
  | .otherDirective => return .empty
  | _ =>
    if ← at? [.documentStart, .documentEnd, .streamEnd] then return .empty
    else node .block fuel

def explicitDocument (fuel : Nat) : Parser Node := do
  let handles ← directives fuel false []
  modify fun s => { s with handles := handles ++ defaultHandles }
  expect .documentStart
  content fuel

/-- The end of the stream after any markers of a document's end. -/
def streamEnd : Nat → Parser Unit
  | 0 => fail
  | fuel + 1 => do
    if ← accept .documentEnd then streamEnd fuel
    else if !(← accept .streamEnd) then
      let _ ← directives fuel false []
      fail

/-- The root of the one document, if there is one. -/
def stream (fuel : Nat) : Parser (Option Node) := do
  if ← accept .streamEnd then return none
  let explicit ←
    match ← peek with
    | .versionDirective _ => pure true
    | .tagDirective _ _ => pure true
    | .otherDirective => pure true
    | .documentStart => pure true
    | _ => pure false
  let root ←
    if explicit then explicitDocument fuel
    else do
      modify fun s => { s with handles := defaultHandles }
      node .block fuel
  streamEnd fuel
  return some root

end Parser

def Document.ofTokens? (tokens : List Token) : Except Fault (Option Document) := do
  let (root, s) ← (Parser.stream (4 * tokens.length + 4)).run { tokens }
  return root.map fun root => ⟨root, s.anchored⟩

end SearchTemplate.Yaml
