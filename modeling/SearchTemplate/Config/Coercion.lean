import SearchTemplate.Datum.Basic
import SearchTemplate.Number.Integer
import SearchTemplate.Text.Bytes

/-!
# Reading settings from data

Settings are written loosely. A text may be given as bytes in UTF-8. An integer may be given as a
truth value, as an integral number of moderate size, or as the text of one: blanks around it, a
plus sign, zeros in front, zeros after a decimal point and single underscores do not matter.
-/

namespace SearchTemplate

namespace Datum

def toText? : Datum → Option Text
  | str t => some t
  | bytes bs => Text.ofUtf8? bs
  | _ => none

/-! ## Integers in texts -/

def underscore : Symbol := .char '_'

/-- A blank in the sense of Unicode, which leaves out the information separators. -/
def isWhiteSpace (s : Symbol) : Bool := s.isBlank && !(0x1C ≤ s.code && s.code ≤ 0x1F)

def trimWhiteSpace (t : Text) : Text :=
  ((t.dropWhile isWhiteSpace).reverse.dropWhile isWhiteSpace).reverse

/-- Drops a plus sign, which may not stand before another sign. -/
def dropPlus? : Text → Option Text
  | .char '+' :: .char '+' :: _ => none
  | .char '+' :: .char '-' :: _ => none
  | .char '+' :: rest => some rest
  | t => some t

/-- Underscores stand one by one, and not at the ends. -/
def underscoresSeparate : Text → Bool
  | [] => true
  | [s] => s != underscore
  | s :: t :: rest => (s != underscore || t != underscore) && underscoresSeparate (t :: rest)

/-- Drops zeros before another digit, with underscores between them; `last` is the symbol
before. -/
def dropZerosAfter (last : Symbol) : Text → Option Text
  | [] => some [last]
  | s :: rest =>
    if s = .char '0' ∨ s = underscore then dropZerosAfter s rest
    else if 0x31 ≤ s.code ∧ s.code ≤ 0x39 then some (s :: rest)
    else if s = .char '.' then some (last :: s :: rest)
    else none

/-- Drops zeros in front. The text has to start with a digit or a minus sign. -/
def dropZeros? : Text → Option Text
  | [] => none
  | s :: rest =>
    if s = .char '0' then dropZerosAfter s rest
    else if (0x31 ≤ s.code ∧ s.code ≤ 0x39) ∨ s = .char '-' then some (s :: rest)
    else none

/-- Drops a decimal point that only zeros follow. -/
def dropPointZeros (t : Text) : Text :=
  let whole := t.takeWhile (· != .char '.')
  if (t.drop (whole.length + 1)).all (· == .char '0') then whole else t

def readLooseInt (t : Text) : Option Int :=
  match Number.readStrictInt t with
  | some n => some n
  | none => do
    let t ← dropPlus? (trimWhiteSpace t)
    if t.head? != some underscore && underscoresSeparate t then
      let t ← dropZeros? t
      Number.readStrictInt ((dropPointZeros t).filter (· != underscore))
    else none

/-- The numbers that are taken for integers are smaller than this. -/
def realLimit : Int := .pow 2 63

def toInt? : Datum → Option Int
  | bool b => some (if b then 1 else 0)
  | int n => some n
  | real x => x.toInt?.filter fun n => -realLimit < n && n < realLimit
  | str t => readLooseInt t
  | bytes bs => (Text.ofUtf8? bs).bind readLooseInt
  | _ => none

end Datum

end SearchTemplate
