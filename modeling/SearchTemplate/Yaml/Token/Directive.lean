import SearchTemplate.Number.Integer
import SearchTemplate.Yaml.Token.Block
import SearchTemplate.Yaml.Token.Property

/-!
# Directives

Lines in front of a document that start with a percent sign: `%YAML` names a version, `%TAG`
gives a handle its meaning, and all others are ignored.
-/

namespace SearchTemplate.Yaml

/-- A part of a version. -/
def readVersionPart (c : Cursor) : Except Fault (Nat × Cursor) :=
  let (digits, c) := c.takeWhile Symbol.isDigit
  if digits.isEmpty then .error .malformed
  else
    match Number.readDigits? 10 digits with
    | some n => .ok (n, c)
    | none => .error .notANumber

def readVersion (c : Cursor) : Except Fault (Token × Cursor) := do
  let (major, c) ← readVersionPart c.skipSpaces
  if c.peek ≠ some (.char '.') then throw .malformed
  let (_, c) ← readVersionPart c.next
  if endsWord c.peek then return (.versionDirective major, c) else throw .malformed

def readTagMeaning (c : Cursor) : Except Fault (Token × Cursor) := do
  let (handle, c) ← readHandle c.skipSpaces
  if c.peek ≠ some (.char ' ') then throw .malformed
  let (tagPrefix, c) ← readUri c.skipSpaces
  if endsWord c.peek then return (.tagDirective handle tagPrefix, c) else throw .malformed

/-- A directive, whose percent sign stands at the cursor. -/
def readDirective (c : Cursor) : Except Fault (Token × Cursor) := do
  let (name, c) := c.next.takeWhile isNameSymbol
  if name.isEmpty ∨ !endsWord c.peek then throw .malformed
  let (token, c) ←
    if name = .ofString "YAML" then readVersion c
    else if name = .ofString "TAG" then readTagMeaning c
    else .ok (.otherDirective, (c.takeWhile fun s => !isBreak s).2)
  return (token, ← endLine c)

end SearchTemplate.Yaml
