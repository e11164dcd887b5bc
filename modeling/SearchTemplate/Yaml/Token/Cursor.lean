import SearchTemplate.Text.Symbol

/-!
# Cursors

A cursor is a place in a text: what follows, how much was read, and the line and column. Lines
end at line feeds, next-line controls, and the separators of lines and paragraphs. The end of
the text counts as what may follow a token wherever a line end does.
-/

namespace SearchTemplate.Yaml

def isBreak : Symbol → Bool
  | .char c => c = '\n' || c = '\u0085' || c = '\u2028' || c = '\u2029'
  | .stray _ _ => false

def isSpace (s : Symbol) : Bool := s = .char ' '

def isSpaceOrTab (s : Symbol) : Bool := s = .char ' ' || s = .char '\t'

/-- The end of a line or of the text. -/
def endsLine : Option Symbol → Bool
  | none => true
  | some s => isBreak s

/-- The end of a line, or a space. -/
def endsWord : Option Symbol → Bool
  | none => true
  | some s => isBreak s || isSpace s

/-- The end of a line, a space or a tab. -/
def separates : Option Symbol → Bool
  | none => true
  | some s => isBreak s || isSpaceOrTab s

/-- One of the ASCII characters of `set`. -/
def oneOf (set : String) (s : Symbol) : Bool := (Text.ofString set).contains s

/-- One of the ASCII characters of `set`, and not the end. -/
def isOneOf (set : String) : Option Symbol → Bool
  | none => false
  | some s => oneOf set s

def byteOrderMark : Symbol := .char '\uFEFF'

structure Cursor where
  rest : Text
  index : Nat := 0
  line : Nat := 0
  column : Nat := 0
  deriving DecidableEq, Repr

namespace Cursor

def peek (c : Cursor) : Option Symbol := c.rest.head?

/-- The symbol `k` places on. -/
def peekAt (c : Cursor) (k : Nat) : Option Symbol := c.rest[k]?

/-- The cursor after one more symbol. A byte order mark takes no column. -/
def next (c : Cursor) : Cursor :=
  match c.rest with
  | [] => c
  | s :: rest =>
    if isBreak s then ⟨rest, c.index + 1, c.line + 1, 0⟩
    else if s = byteOrderMark then ⟨rest, c.index + 1, c.line, c.column⟩
    else ⟨rest, c.index + 1, c.line, c.column + 1⟩

def skip : Nat → Cursor → Cursor
  | 0, c => c
  | n + 1, c => skip n c.next

/-- The longest text of symbols with a property, and the cursor after it. -/
def takeWhile (c : Cursor) (p : Symbol → Bool) : Text × Cursor :=
  let t := c.rest.takeWhile p
  (t, c.skip t.length)

def skipSpaces (c : Cursor) : Cursor := (c.takeWhile isSpace).2

/-- The cursor after a comment, if one starts here. -/
def skipComment (c : Cursor) : Cursor :=
  if c.peek = some (.char '#') then (c.takeWhile fun s => !isBreak s).2 else c

/-- A line end as the text it stands for, which is a line feed except for separators. No text if
there is no line end. -/
def takeBreak (c : Cursor) : Text × Cursor :=
  match c.peek with
  | some s =>
    if s = .char '\n' ∨ s = .char '\u0085' then ([.char '\n'], c.next)
    else if isBreak s then ([s], c.next)
    else ([], c)
  | none => ([], c)

/-- The marker of a document's start or end stands here. -/
def atMarker (marker : String) (c : Cursor) : Bool :=
  (Text.ofString marker).isPrefixOf c.rest && separates (c.peekAt marker.length)

def atDocumentMarker (c : Cursor) : Bool := c.atMarker "---" || c.atMarker "..."

end Cursor

end SearchTemplate.Yaml
