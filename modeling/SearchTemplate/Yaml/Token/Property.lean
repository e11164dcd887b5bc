import SearchTemplate.Text.Bytes
import SearchTemplate.Text.Digit
import SearchTemplate.Yaml.Token.Basic
import SearchTemplate.Yaml.Token.Cursor

/-!
# Anchors, aliases and tags
-/

namespace SearchTemplate.Yaml

def isAlphanumeric : Symbol → Bool
  | .char c => c.isAlphanum
  | .stray _ _ => false

/-- Occurs in the names of anchors, directives and tag handles. -/
def isNameSymbol (s : Symbol) : Bool := isAlphanumeric s || oneOf "-_" s

/-- The name of an anchor or an alias, after its indicator. -/
def readName (c : Cursor) : Except Fault (Text × Cursor) :=
  let (name, c) := c.takeWhile isNameSymbol
  if name.isEmpty then .error .malformed
  else if separates c.peek || isOneOf "?:,]\x7d%@\x60" c.peek then .ok (name, c)
  else .error .malformed

/-! ## Tags -/

/-- Occurs in the suffix of a tag, apart from escapes. -/
def isUriSymbol (s : Symbol) : Bool := isAlphanumeric s || oneOf "-;/?:@&=+$,_.!~*'()[]" s

/-- The bytes of the escapes `%XX` that follow one another at the cursor. -/
def readUriBytes : Nat → Cursor → Except Fault (List UInt8 × Cursor)
  | 0, c => .ok ([], c)
  | fuel + 1, c =>
    match c.rest with
    | .char '%' :: x :: y :: _ =>
      match Text.hexNumber? [x, y] with
      | some n => do
        let (bytes, c) ← readUriBytes fuel (c.skip 3)
        return (UInt8.ofNat n :: bytes, c)
      | none => .error .malformed
    | .char '%' :: _ => .error .malformed
    | _ => .ok ([], c)

/-- The rest of a suffix, in which escapes have to be UTF-8. -/
def readUriFrom : Nat → Text → Cursor → Except Fault (Text × Cursor)
  | 0, read, c => .ok (read, c)
  | fuel + 1, read, c => do
    let (plain, c) := c.takeWhile isUriSymbol
    let (bytes, c) ← readUriBytes (c.rest.length + 1) c
    match Text.ofUtf8? bytes with
    | none => throw .malformed
    | some escaped =>
      if plain.isEmpty && escaped.isEmpty then return (read, c)
      else readUriFrom fuel (read ++ plain ++ escaped) c

def readUri (c : Cursor) : Except Fault (Text × Cursor) := do
  let (uri, c) ← readUriFrom (c.rest.length + 1) [] c
  if uri.isEmpty then throw .malformed
  return (uri, c)

def exclamation : Symbol := .char '!'

/-- A tag handle: `!`, `!!` or `!name!`. -/
def readHandle (c : Cursor) : Except Fault (Text × Cursor) :=
  if c.peek ≠ some exclamation then .error .malformed
  else if c.peekAt 1 = some (.char ' ') then .ok ([exclamation], c.next)
  else
    let (name, c) := c.next.takeWhile isNameSymbol
    if c.peek = some exclamation then .ok (exclamation :: name ++ [exclamation], c.next)
    else .error .malformed

/-- A second exclamation mark stands in the word at the head of a text. -/
def hasHandle (t : Text) : Bool :=
  (t.takeWhile fun s => !endsWord (some s)).contains exclamation

def readTagParts (c : Cursor) : Except Fault (WrittenTag × Cursor) :=
  match c.peekAt 1 with
  | some (.char '<') => do
    let (suffix, c) ← readUri (c.skip 2)
    if c.peek = some (.char '>') then return (⟨none, suffix⟩, c.next) else throw .malformed
  | after =>
    if separates after then .ok (⟨none, [exclamation]⟩, c.next)
    else do
      let (handle, c) ←
        if hasHandle (c.rest.drop 1) then readHandle c else .ok ([exclamation], c.next)
      let (suffix, c) ← readUri c
      return (⟨some handle, suffix⟩, c)

/-- A tag, which has to stand as a word of its own. -/
def readTag (c : Cursor) : Except Fault (WrittenTag × Cursor) := do
  let (tag, c) ← readTagParts c
  if endsWord c.peek then return (tag, c) else throw .malformed

end SearchTemplate.Yaml
