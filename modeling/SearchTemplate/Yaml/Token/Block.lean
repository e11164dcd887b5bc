import SearchTemplate.Text.Digit
import SearchTemplate.Yaml.Fault
import SearchTemplate.Yaml.Token.Cursor

/-!
# Block scalars

Scalars whose lines stand below a header. The header says what becomes of the line ends at the
end (`Chomping`) and may fix the indentation, which is otherwise that of the first line.
-/

namespace SearchTemplate.Yaml

/-- What is kept of the line ends at the end of a block scalar. -/
inductive Chomping where
  | strip
  | clip
  | keep
  deriving DecidableEq, Repr

def readChomping? : Option Symbol → Option Chomping
  | some (.char '+') => some .keep
  | some (.char '-') => some .strip
  | _ => none

def readIncrement? (s : Option Symbol) : Option Nat := s.bind Symbol.digit?

structure BlockHeader where
  chomping : Chomping
  increment : Option Nat
  cursor : Cursor

/-- The two indicators of a header, in either order and each optional. -/
def readIndicators (c : Cursor) : BlockHeader :=
  match readChomping? c.peek with
  | some chomping =>
    match readIncrement? c.next.peek with
    | some n => ⟨chomping, some n, c.skip 2⟩
    | none => ⟨chomping, none, c.next⟩
  | none =>
    match readIncrement? c.peek with
    | some n =>
      match readChomping? c.next.peek with
      | some chomping => ⟨chomping, some n, c.skip 2⟩
      | none => ⟨.clip, some n, c.next⟩
    | none => ⟨.clip, none, c⟩

/-- The rest of a line that holds nothing more than a comment. -/
def endLine (c : Cursor) : Except Fault Cursor :=
  let c := c.skipSpaces.skipComment
  if endsLine c.peek then .ok c.takeBreak.2 else .error .malformed

def readBlockHeader (c : Cursor) : Except Fault BlockHeader := do
  let header := readIndicators c
  if header.increment = some 0 ∨ !endsWord header.cursor.peek then throw .malformed
  let cursor ← endLine header.cursor
  return { header with cursor }

/-- The empty lines at the head of a block scalar and the widest indentation in them. -/
def leadingBreaks : Nat → Cursor → Text × Nat × Cursor
  | 0, c => ([], 0, c)
  | fuel + 1, c =>
    let (spaces, c) := c.takeWhile isSpace
    let width := if spaces.isEmpty then 0 else c.column
    match c.takeBreak with
    | ([], c) => ([], width, c)
    | (lineBreak, c) =>
      let (breaks, widest, c) := leadingBreaks fuel c
      (lineBreak ++ breaks, max width widest, c)

/-- Skips spaces up to a column. -/
def skipIndent (indent : Nat) (c : Cursor) : Cursor :=
  c.skip ((c.rest.takeWhile isSpace).length.min (indent - c.column))

/-- Empty lines, and the indentation of the line after them. -/
def blockBreaks (indent : Nat) : Nat → Cursor → Text × Cursor
  | 0, c => ([], c)
  | fuel + 1, c =>
    match (skipIndent indent c).takeBreak with
    | ([], c) => ([], c)
    | (lineBreak, c) =>
      let (breaks, c) := blockBreaks indent fuel c
      (lineBreak ++ breaks, c)

/-- Whether a line of the scalar starts at the cursor. -/
def inBlock (indent : Nat) (c : Cursor) : Bool := c.column = indent && c.peek.isSome

/-- Reads lines after the text `read` and the empty lines `breaks`. -/
def readLines (folded : Bool) (chomping : Chomping) (indent : Nat) :
    Nat → Text → Text → Cursor → Text × Cursor
  | 0, read, _, c => (read, c)
  | fuel + 1, read, breaks, c =>
    let startsWithSpace := c.peek.any isSpaceOrTab
    let (line, c) := c.takeWhile fun s => !isBreak s
    let read := read ++ breaks ++ line
    let (lineBreak, c) := c.takeBreak
    let (breaks, c) := blockBreaks indent (c.rest.length + 1) c
    if inBlock indent c then
      let joint :=
        if folded && lineBreak = [.char '\n'] && !startsWithSpace && !c.peek.any isSpaceOrTab then
          if breaks.isEmpty then [.char ' '] else []
        else lineBreak
      readLines folded chomping indent fuel (read ++ joint) breaks c
    else
      match chomping with
      | .strip => (read, c)
      | .clip => (read ++ lineBreak, c)
      | .keep => (read ++ lineBreak ++ breaks, c)

/-- The scalar of a cursor after its indicator, in a block indented by `parent`. -/
def readBlock (folded : Bool) (parent : Int) (c : Cursor) : Except Fault (Text × Cursor) := do
  let header ← readBlockHeader c
  let c := header.cursor
  let least := (parent + 1).toNat.max 1
  let fuel := c.rest.length + 1
  let (indent, breaks, c) :=
    match header.increment with
    | some n =>
      let indent := least + n - 1
      (indent, blockBreaks indent fuel c)
    | none =>
      let (breaks, widest, c) := leadingBreaks fuel c
      (least.max widest, breaks, c)
  if inBlock indent c then
    return readLines folded header.chomping indent fuel [] breaks c
  else
    return (if header.chomping = .keep then breaks else [], c)

end SearchTemplate.Yaml
