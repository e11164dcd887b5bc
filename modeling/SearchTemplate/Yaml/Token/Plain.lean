import SearchTemplate.Yaml.Token.Cursor

/-!
# Plain scalars

Scalars without quotes. Inside of brackets (`flow`) fewer symbols may occur in one. Line ends
fold: one becomes a space, further ones are kept.
-/

namespace SearchTemplate.Yaml

/-- A plain scalar may start here. -/
def startsPlain (flow : Bool) (c : Cursor) : Bool :=
  match c.peek with
  | none => false
  | some s =>
    !(separates (some s) || oneOf "-?:,[]\x7b\x7d#&*!|>'\"%@\x60" s)
      || (!separates (c.peekAt 1) && (s = .char '-' || (!flow && oneOf "?:" s)))

/-- The symbol `s` before `after` ends a plain scalar or a part of it. -/
def endsPlain (flow : Bool) (s : Symbol) (after : Option Symbol) : Bool :=
  separates (some s)
    || (s = .char ':' && (separates after || (flow && isOneOf ",[]\x7b\x7d" after)))
    || (flow && oneOf ",?[]\x7b\x7d" s)

/-- The part of a plain scalar at the head of a text, without spaces. -/
def plainPart (flow : Bool) : Text → Text
  | [] => []
  | s :: rest => if endsPlain flow s rest.head? then [] else s :: plainPart flow rest

/-- The line ends from a cursor on, past spaces; `none` if a document marker follows one. -/
def foldedBreaks : Nat → Cursor → Option Text × Cursor
  | 0, c => (some [], c)
  | fuel + 1, c =>
    let c := c.skipSpaces
    match c.takeBreak with
    | ([], c) => (some [], c)
    | (lineBreak, c) =>
      if c.atDocumentMarker then (none, c)
      else
        let (breaks, c) := foldedBreaks fuel c
        (breaks.map (lineBreak ++ ·), c)

/-- A line end and those after it as they are read: one line feed alone is a space. -/
def fold (lineBreak breaks : Text) : Text :=
  if lineBreak ≠ [.char '\n'] then lineBreak ++ breaks
  else if breaks.isEmpty then [.char ' ']
  else breaks

/-- The space after a part of a plain scalar, and whether a line ended in it. No space means that
the scalar ends. -/
def plainSpace (c : Cursor) : Text × Bool × Cursor :=
  let (spaces, c) := c.takeWhile isSpace
  match c.takeBreak with
  | ([], c) => (spaces, false, c)
  | (lineBreak, c) =>
    if c.atDocumentMarker then ([], true, c)
    else
      match foldedBreaks (c.rest.length + 1) c with
      | (none, c) => ([], true, c)
      | (some breaks, c) => (fold lineBreak breaks, true, c)

structure PlainScalar where
  text : Text
  /-- The scalar is followed by a new line. -/
  endedLine : Bool
  cursor : Cursor

/-- Reads on after the text `read` and the space `space`. Lines have to be indented by `indent`
outside of brackets. -/
def readPlainFrom (flow : Bool) (indent : Int) : Nat → Text → Text → Bool → Cursor → PlainScalar
  | 0, read, _, endedLine, c => ⟨read, endedLine, c⟩
  | fuel + 1, read, space, endedLine, c =>
    let part := plainPart flow c.rest
    if c.peek = some (.char '#') ∨ part = [] then ⟨read, endedLine, c⟩
    else
      let read := read ++ space ++ part
      let (space, endedLine, c) := plainSpace (c.skip part.length)
      if space = [] ∨ (!flow ∧ (c.column : Int) < indent) then ⟨read, endedLine, c⟩
      else readPlainFrom flow indent fuel read space endedLine c

def readPlain (flow : Bool) (indent : Int) (c : Cursor) : PlainScalar :=
  readPlainFrom flow indent (c.rest.length + 1) [] [] false c

end SearchTemplate.Yaml
