import SearchTemplate.Placeholder.Basic
import SearchTemplate.Text.Sections

/-!
# Finding the placeholders of a URL

`Placeholder.pattern` recognises one placeholder: the opening, options up to the first
backslash, and a delimiter up to the first closing brace. `Scan.ofUrl` numbers the placeholders
of a URL and keeps the literal text around them; `Scan.toUrl` writes the URL again.
-/

namespace SearchTemplate

namespace Placeholder

def opening : Text := .ofString "\x7bsearch"

def backslash : Symbol := .char '\\'

def closing : Symbol := .char '\x7d'

/-- What stands between the braces of a placeholder. -/
structure Body where
  options : Text
  delimiter : Text
  deriving DecidableEq, Repr

/-- The written form of a placeholder. -/
def Body.write (b : Body) : Text := opening ++ b.options ++ backslash :: b.delimiter ++ [closing]

/-- The text before the first `s` and the text after it. -/
def cutAt? (s : Symbol) : Text → Option (Text × Text)
  | [] => none
  | x :: rest =>
    if x = s then some ([], rest) else (cutAt? s rest).map fun cut => (x :: cut.1, cut.2)

/-- The body at the head of a text that follows an opening. -/
def Body.ofText? (t : Text) : Option Body := do
  let (options, rest) ← cutAt? backslash t
  let (delimiter, _) ← cutAt? closing rest
  return ⟨options, delimiter⟩

def pattern : Pattern Body := fun t =>
  if opening.isPrefixOf t then
    (Body.ofText? (t.drop opening.length)).map fun b => (b, b.write.length)
  else
    none

end Placeholder

/-- The placeholders of a URL in order and the literal text after the last one. -/
structure Scan where
  placeholders : List Placeholder
  trailing : Text
  deriving DecidableEq, Repr

namespace Scan

/-- Numbers the placeholders from `occurrence`, the first of which follows the text `before`. -/
def ofSections (occurrence : Nat) (before : Text) : List (Placeholder.Body × Text) → Scan
  | [] => ⟨[], before⟩
  | (body, after) :: rest =>
    let scan := ofSections (occurrence + 1) after rest
    ⟨⟨before, body.options, body.delimiter, occurrence, body.write⟩ :: scan.placeholders,
      scan.trailing⟩

def ofUrl (url : Text) : Scan :=
  let sections := Sections.scan Placeholder.pattern url
  ofSections 1 sections.head sections.tail

def toUrl (scan : Scan) : Text :=
  scan.placeholders.flatMap (fun p => p.before ++ p.source) ++ scan.trailing

end Scan

end SearchTemplate
