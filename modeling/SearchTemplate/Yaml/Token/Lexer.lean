import SearchTemplate.Yaml.Token.Block
import SearchTemplate.Yaml.Token.Directive
import SearchTemplate.Yaml.Token.Quoted

/-!
# Reading tokens

`Token.ofText` reads the tokens of a text. A key without the indicator `?` is known as a key only
at the colon after it, so the places of possible keys are remembered, one for each depth of
brackets (`PendingKey`); at the colon the tokens `key` and `blockMappingStart` are put in there.
A key ends on its line and within 1024 symbols.
-/

namespace SearchTemplate.Yaml

/-- A place where a key may have started. -/
structure PendingKey where
  /-- How many brackets are open. -/
  depth : Nat
  /-- The number of the key's first token. -/
  token : Nat
  /-- Nothing but a key can stand there. -/
  required : Bool
  index : Nat
  line : Nat
  column : Nat
  deriving DecidableEq, Repr

structure Lexer where
  cursor : Cursor
  /-- The tokens so far, the last one first. -/
  tokens : List Token := []
  /-- How many brackets are open. -/
  depth : Nat := 0
  /-- The indentation of the innermost block, -1 outside of all. -/
  indent : Int := -1
  /-- The indentations of the blocks around it. -/
  outer : List Int := []
  keyAllowed : Bool := true
  pending : List PendingKey := []

namespace Lexer

def emit (token : Token) (l : Lexer) : Lexer := { l with tokens := token :: l.tokens }

/-- Puts a token at a number, before the one that stands there. -/
def insert (number : Nat) (token : Token) (l : Lexer) : Lexer :=
  let after := l.tokens.length - number
  { l with tokens := l.tokens.take after ++ token :: l.tokens.drop after }

def inBrackets (l : Lexer) : Bool := l.depth != 0

/-! ## Pending keys -/

/-- A key can no longer end at its colon. -/
def isStale (l : Lexer) (key : PendingKey) : Bool :=
  key.line != l.cursor.line || key.index + 1024 < l.cursor.index

/-- Ends the tokens where the grammar can no longer go on without what is broken: at the first key
that may still end at a colon, or else here. -/
def breakOff (fault : Fault) (l : Lexer) : Lexer :=
  let here := l.tokens.length
  let mayEnd (key : PendingKey) : Bool := key.required || !l.isStale key
  let place := (l.pending.filter mayEnd).foldl (fun n key => min n key.token) here
  { l with tokens := .broken fault :: l.tokens.drop (here - place) }

def dropStale (l : Lexer) : Except Fault Lexer :=
  if l.pending.any fun key => l.isStale key && key.required then .error .malformed
  else .ok { l with pending := l.pending.filter fun key => !l.isStale key }

/-- Gives up the pending key at the current depth. -/
def dropKey (l : Lexer) : Except Fault Lexer :=
  if l.pending.any fun key => key.depth == l.depth && key.required then .error .malformed
  else .ok { l with pending := l.pending.filter fun key => key.depth != l.depth }

/-- Remembers that a key may start here. -/
def saveKey (l : Lexer) : Except Fault Lexer :=
  if l.keyAllowed then do
    let required := !l.inBrackets && l.indent == l.cursor.column
    let l ← l.dropKey
    let c := l.cursor
    let key : PendingKey := ⟨l.depth, l.tokens.length, required, c.index, c.line, c.column⟩
    return { l with pending := key :: l.pending }
  else .ok l

/-! ## Indentation -/

/-- Ends the blocks that are indented further than a column. -/
def closeBlocks (column : Int) : List Int → Lexer → Lexer
  | [], l => l
  | around :: outer, l =>
    if column < l.indent then
      closeBlocks column outer { l with indent := around, outer, tokens := .blockEnd :: l.tokens }
    else l

/-- Brackets leave indentation without meaning. -/
def unwind (column : Int) (l : Lexer) : Lexer :=
  if l.inBrackets then l else closeBlocks column l.outer l

/-- Starts a block at a column that is further in, with a token at a given number. -/
def openBlock (column : Nat) (number : Nat) (token : Token) (l : Lexer) : Lexer :=
  if l.indent < column then
    { l with indent := column, outer := l.indent :: l.outer }.insert number token
  else l

/-! ## Single tokens -/

/-- The lexer after `n` symbols that make up a token. -/
def take (n : Nat) (token : Token) (l : Lexer) : Lexer :=
  { l with cursor := l.cursor.skip n }.emit token

/-- Adds the token that `read` gives, or breaks off. -/
def scan (l : Lexer) (read : Cursor → Except Fault (Token × Cursor)) : Lexer :=
  match read l.cursor with
  | .ok (token, cursor) => { l with cursor }.emit token
  | .error fault => l.breakOff fault

/-- Ends all blocks, as directives and markers do. -/
def endBlocks (l : Lexer) : Except Fault Lexer := do
  let l ← (l.unwind (-1)).dropKey
  return { l with keyAllowed := false }

def readStreamEnd (l : Lexer) : Except Fault Lexer := do
  return (← l.endBlocks).emit .streamEnd

def readMarker (token : Token) (l : Lexer) : Except Fault Lexer := do
  return (← l.endBlocks).take 3 token

def openBracket (token : Token) (l : Lexer) : Except Fault Lexer := do
  let l ← l.saveKey
  return { l with depth := l.depth + 1, keyAllowed := true }.take 1 token

def closeBracket (token : Token) (l : Lexer) : Except Fault Lexer := do
  let l ← l.dropKey
  return { l with depth := l.depth - 1, keyAllowed := false }.take 1 token

def readFlowEntry (l : Lexer) : Except Fault Lexer := do
  let l ← { l with keyAllowed := true }.dropKey
  return l.take 1 .flowEntry

def readBlockEntry (l : Lexer) : Except Fault Lexer := do
  if !l.inBrackets && !l.keyAllowed then throw .malformed
  let l :=
    if l.inBrackets then l
    else l.openBlock l.cursor.column l.tokens.length .blockSequenceStart
  let l ← { l with keyAllowed := true }.dropKey
  return l.take 1 .blockEntry

/-- Starts a mapping for a key or a value that stands at the cursor. -/
def openMapping (l : Lexer) : Except Fault Lexer :=
  if l.inBrackets then .ok l
  else if l.keyAllowed then
    .ok (l.openBlock l.cursor.column l.tokens.length .blockMappingStart)
  else .error .malformed

def readKey (l : Lexer) : Except Fault Lexer := do
  let l ← l.openMapping
  let l ← { l with keyAllowed := !l.inBrackets }.dropKey
  return l.take 1 .key

def readValue (l : Lexer) : Except Fault Lexer :=
  match l.pending.find? fun key => key.depth == l.depth with
  | some key =>
    let l := { l with pending := l.pending.filter fun key => key.depth != l.depth }
    let l := l.insert key.token .key
    let l := if l.inBrackets then l else l.openBlock key.column key.token .blockMappingStart
    .ok ({ l with keyAllowed := false }.take 1 .value)
  | none => do
    let l ← l.openMapping
    let l ← { l with keyAllowed := !l.inBrackets }.dropKey
    return l.take 1 .value

/-- Reads a token that may start a key and that no key can follow. -/
def readKeyPart (read : Cursor → Except Fault (Token × Cursor)) (l : Lexer) :
    Except Fault Lexer := do
  let l ← l.saveKey
  return { l with keyAllowed := false }.scan read

def readNamed (token : Text → Token) (c : Cursor) : Except Fault (Token × Cursor) := do
  let (name, c) ← readName c.next
  return (token name, c)

def readTagToken (c : Cursor) : Except Fault (Token × Cursor) := do
  let (tag, c) ← readTag c
  return (.tag tag, c)

def readQuotedToken (quote : Symbol) (c : Cursor) : Except Fault (Token × Cursor) := do
  let (text, c) ← readQuoted quote c
  return (.scalar text false, c)

def readBlockToken (folded : Bool) (l : Lexer) : Except Fault Lexer := do
  let l ← { l with keyAllowed := true }.dropKey
  let (text, cursor) ← readBlock folded l.indent l.cursor.next
  return { l with cursor }.emit (.scalar text false)

def readPlainToken (l : Lexer) : Except Fault Lexer := do
  let l ← l.saveKey
  let scalar := readPlain l.inBrackets (l.indent + 1) l.cursor
  return { l with cursor := scalar.cursor, keyAllowed := scalar.endedLine }.emit
    (.scalar scalar.text true)

/-! ## The next token -/

/-- Skips spaces, comments and line ends. Outside of brackets a key may start on a new line. -/
def skipToToken : Nat → Lexer → Lexer
  | 0, l => l
  | fuel + 1, l =>
    let c := l.cursor.skipSpaces.skipComment
    match c.takeBreak with
    | ([], c) => { l with cursor := c }
    | (_, c) => skipToToken fuel { l with cursor := c, keyAllowed := l.keyAllowed || !l.inBrackets }

/-- Reads the token that starts with the symbol `s` at the cursor. -/
def readToken (s : Symbol) (l : Lexer) : Except Fault Lexer :=
  let c := l.cursor
  let alone := separates (c.peekAt 1)
  let atMargin := c.column == 0
  match s with
  | .char '%' =>
    if atMargin then do return (← l.endBlocks).scan readDirective else .error .malformed
  | .char '[' => l.openBracket .flowSequenceStart
  | .char '\x7b' => l.openBracket .flowMappingStart
  | .char ']' => l.closeBracket .flowSequenceEnd
  | .char '\x7d' => l.closeBracket .flowMappingEnd
  | .char ',' => l.readFlowEntry
  | .char '*' => l.readKeyPart (readNamed .alias)
  | .char '&' => l.readKeyPart (readNamed .anchor)
  | .char '!' => l.readKeyPart readTagToken
  | .char '\'' => l.readKeyPart (readQuotedToken s)
  | .char '"' => l.readKeyPart (readQuotedToken s)
  | _ =>
    if atMargin && c.atMarker "---" then l.readMarker .documentStart
    else if atMargin && c.atMarker "..." then l.readMarker .documentEnd
    else if s = .char '-' ∧ alone then l.readBlockEntry
    else if s = .char '?' ∧ (l.inBrackets ∨ alone) then l.readKey
    else if s = .char ':' ∧ (l.inBrackets ∨ alone) then l.readValue
    else if s = .char '|' ∧ !l.inBrackets then l.readBlockToken false
    else if s = .char '>' ∧ !l.inBrackets then l.readBlockToken true
    else if startsPlain l.inBrackets c then l.readPlainToken
    else .error .malformed

/-- Reads the next token, after the ends of blocks that stand before it. -/
def step (l : Lexer) : Except Fault Lexer := do
  let l ← (l.skipToToken (l.cursor.rest.length + 1)).dropStale
  let l := l.unwind l.cursor.column
  match l.cursor.peek with
  | none => l.readStreamEnd
  | some s => l.readToken s

def isDone (l : Lexer) : Bool :=
  match l.tokens with
  | .streamEnd :: _ => true
  | .broken _ :: _ => true
  | _ => false

def run : Nat → Lexer → Lexer
  | 0, l => l
  | fuel + 1, l =>
    match l.step with
    | .error fault => l.breakOff fault
    | .ok l => if l.isDone then l else run fuel l

end Lexer

/-- Symbols that may occur in a document. -/
def isPrintable (s : Symbol) : Bool :=
  let n := s.code
  n == 0x9 || n == 0xA || n == 0xD || (0x20 ≤ n && n ≤ 0x7E) || n == 0x85
    || (0xA0 ≤ n && n ≤ 0xD7FF) || (0xE000 ≤ n && n ≤ 0xFFFD) || (0x10000 ≤ n && n ≤ 0x10FFFF)

def Token.ofText (t : Text) : List Token :=
  if t.all isPrintable then
    let c : Cursor := { rest := t }
    let c := if c.peek = some byteOrderMark then c.next else c
    ((Lexer.run (t.length + 2) { cursor := c }).tokens).reverse
  else [.broken .malformed]

end SearchTemplate.Yaml
