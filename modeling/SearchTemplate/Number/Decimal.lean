import SearchTemplate.Number.Binary64
import SearchTemplate.Number.Integer

/-!
# Reading decimal numbers

`readReal` reads a decimal number with an optional point and exponent, or a word for infinity or
for no number, with blanks around it. Digits may come from any script.
-/

namespace SearchTemplate.Number

/-- ASCII capitals as small letters. -/
def lower (t : Text) : Text :=
  t.map fun
    | .char c => Symbol.char c.toLower
    | .stray b high => .stray b high

def spanDigits (t : Text) : Text × Text := t.span fun s => s.decimalValue?.isSome

/-- The digits after a point, if there is one. -/
def readFraction (t : Text) : Text × Text :=
  match t with
  | .char '.' :: rest => spanDigits rest
  | _ => ([], t)

/-- The power of ten of an exponent, up to the end of the text. -/
def readExponent? : Text → Option Int
  | [] => some 0
  | .char 'e' :: rest =>
    let (negative, digits) := readSign rest
    if digits.isEmpty then none else (ofDigits? 10 digits).map (withSign negative)
  | _ => none

/-- The value of digits of any script. -/
def digitsValue (ds : Text) : Nat := ds.foldl (fun n s => n * 10 + s.decimalValue?.getD 0) 0

def readReal (t : Text) : Option Binary64 :=
  let (negative, t) := readSign (lower t).trim
  if t = .ofString "inf" ∨ t = .ofString "infinity" then some (.infinite negative)
  else if t = .ofString "nan" then some .nan
  else
    let (whole, rest) := spanDigits t
    let (fraction, rest) := readFraction rest
    let digits := whole ++ fraction
    if digits.isEmpty then none
    else
      (readExponent? rest).map fun power =>
        .ofDecimal negative (digitsValue digits) (power - fraction.length)

end SearchTemplate.Number
