import SearchTemplate.Text.Digit
import SearchTemplate.Yaml.Fault
import SearchTemplate.Yaml.Token.Plain

/-!
# Quoted scalars

Between single quotes, a quote is written twice. Between double quotes, a backslash starts an
escape. Line ends fold as in plain scalars.
-/

namespace SearchTemplate.Yaml

def singleQuote : Symbol := .char '\''

def doubleQuote : Symbol := .char '"'

/-- The symbol of an escape with one letter. -/
def namedEscape? : Symbol → Option Char
  | .char '0' => some '\x00'
  | .char 'a' => some '\x07'
  | .char 'b' => some '\x08'
  | .char 't' => some '\t'
  | .char '\t' => some '\t'
  | .char 'n' => some '\n'
  | .char 'v' => some '\x0b'
  | .char 'f' => some '\x0c'
  | .char 'r' => some '\r'
  | .char 'e' => some '\x1b'
  | .char ' ' => some ' '
  | .char '"' => some '"'
  | .char '\\' => some '\\'
  | .char '/' => some '/'
  | .char 'N' => some '\u0085'
  | .char '_' => some '\u00a0'
  | .char 'L' => some '\u2028'
  | .char 'P' => some '\u2029'
  | _ => none

/-- How many digits follow the letter of an escape by code. -/
def codeDigits? : Symbol → Option Nat
  | .char 'x' => some 2
  | .char 'u' => some 4
  | .char 'U' => some 8
  | _ => none

/-- The symbol for a surrogate that is no stray byte. As there is none, one of the last codes for
private use stands for it: different surrogates stay different, but one is not told from the
character with that code. -/
def surrogate (code : Nat) : Symbol := .char (Char.ofNat (0x10F800 + (code - 0xD800)))

/-- The symbol with a code. A code of the surrogates stands for a stray byte if it can. -/
def symbolOfCode (code : Nat) : Except Fault Symbol :=
  if 0x10FFFF < code then .error (.codeOutOfRange code)
  else if 0xD800 ≤ code ∧ code ≤ 0xDFFF then
    .ok ((Symbol.ofStrayCode? code).getD (surrogate code))
  else .ok (.char (Char.ofNat code))

/-- Line ends and the space around them, up to other text. A document marker may not follow. -/
def quotedBreaks : Nat → Cursor → Except Fault (Text × Cursor)
  | 0, _ => .error .malformed
  | fuel + 1, c =>
    if c.atDocumentMarker then .error .malformed
    else
      let c := (c.takeWhile isSpaceOrTab).2
      match c.takeBreak with
      | ([], c) => .ok ([], c)
      | (lineBreak, c) => do
        let (breaks, c) ← quotedBreaks fuel c
        return (lineBreak ++ breaks, c)

def readBreaks (c : Cursor) : Except Fault (Text × Cursor) :=
  quotedBreaks (c.rest.length + 1) c

/-- Space inside of quotes. -/
def quotedSpace (c : Cursor) : Except Fault (Text × Cursor) :=
  let (spaces, c) := c.takeWhile isSpaceOrTab
  match c.peek, c.takeBreak with
  | none, _ => .error .malformed
  | _, ([], _) => .ok (spaces, c)
  | _, (lineBreak, c) => do
    let (breaks, c) ← readBreaks c
    return (fold lineBreak breaks, c)

/-- An escape, after its backslash. -/
def readEscape (c : Cursor) : Except Fault (Text × Cursor) :=
  match c.peek with
  | none => .error .malformed
  | some s =>
    match namedEscape? s, codeDigits? s with
    | some x, _ => .ok ([.char x], c.next)
    | none, some n => do
      let digits := c.next.rest.take n
      match if digits.length = n then Text.hexNumber? digits else none with
      | some code => return ([← symbolOfCode code], c.next.skip n)
      | none => throw .malformed
    | none, none => if isBreak s then readBreaks c.takeBreak.2 else .error .malformed

/-- Ends a run of symbols inside of quotes. -/
def endsQuotedRun (s : Symbol) : Bool := separates (some s) || oneOf "'\"\\" s

/-- Reads on up to the closing quote. -/
def readQuotedFrom (quote : Symbol) : Nat → Text → Cursor → Except Fault (Text × Cursor)
  | 0, _, _ => .error .malformed
  | fuel + 1, read, c => do
    let (run, c) := c.takeWhile fun s => !endsQuotedRun s
    let read := read ++ run
    match c.peek with
    | none => throw .malformed
    | some s =>
      if s = quote then
        if quote = singleQuote ∧ c.peekAt 1 = some singleQuote then
          readQuotedFrom quote fuel (read ++ [quote]) (c.skip 2)
        else return (read, c.next)
      else if s = .char '\\' ∧ quote = doubleQuote then
        let (escaped, c) ← readEscape c.next
        readQuotedFrom quote fuel (read ++ escaped) c
      else if separates (some s) then
        let (space, c) ← quotedSpace c
        readQuotedFrom quote fuel (read ++ space) c
      else readQuotedFrom quote fuel (read ++ [s]) c.next

/-- Reads a scalar in the quotes that stand at the cursor. -/
def readQuoted (quote : Symbol) (c : Cursor) : Except Fault (Text × Cursor) :=
  readQuotedFrom quote (c.rest.length + 1) [] c.next

end SearchTemplate.Yaml
