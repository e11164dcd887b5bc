import SearchTemplate.Text.Blank
import SearchTemplate.Text.Digit

/-!
# Integers

`readInt` reads an integer in a base up to 16, with blanks around it, a sign, and the mark of its
base. Digits may come from any script. `readStrictInt` reads the form without decoration: a
minus sign at most, and no zero in front of other digits. Neither a number that is read in
base ten nor one that is written has more than `maxDigits` digits.
-/

namespace SearchTemplate.Number

/-- The most digits that a number may have whose base is no power of two. -/
def maxDigits : Nat := 4300

/-- The number has too many decimal digits to be written. -/
def isTooLong (n : Int) : Bool := maxDigits < (Text.ofNat n.natAbs).length

/-- The value of a digit, in which letters of either case stand for ten and more. -/
def digitValue? (s : Symbol) : Option Nat :=
  match s.decimalValue? with
  | some n => some n
  | none =>
    if 0x41 ≤ s.code ∧ s.code ≤ 0x5A then some (s.code - 0x41 + 10)
    else if 0x61 ≤ s.code ∧ s.code ≤ 0x7A then some (s.code - 0x61 + 10)
    else none

/-- The number that digits of a base write, most significant first. -/
def ofDigits? (base : Nat) (t : Text) : Option Nat :=
  t.foldlM (fun n s =>
    match digitValue? s with
    | some d => if d < base then some (n * base + d) else none
    | none => none) 0

/-- The digits of a number, which are at least one and not too many for the base. -/
def readDigits? (base : Nat) (t : Text) : Option Nat :=
  if t.isEmpty ∨ (base = 10 ∧ maxDigits < t.length) then none else ofDigits? base t

/-- Whether there is a minus sign, and the rest after the sign. -/
def readSign : Text → Bool × Text
  | .char '-' :: rest => (true, rest)
  | .char '+' :: rest => (false, rest)
  | t => (false, t)

def withSign (negative : Bool) (n : Nat) : Int := if negative then -(n : Int) else n

/-- The rest after the mark of a base, in either case, if there is one. -/
def dropBaseMark (base : Nat) : Text → Text
  | .char '0' :: s :: rest =>
    let letters : List Symbol :=
      if base = 2 then [.char 'b', .char 'B']
      else if base = 8 then [.char 'o', .char 'O']
      else if base = 16 then [.char 'x', .char 'X']
      else []
    if letters.contains s then rest else .char '0' :: s :: rest
  | t => t

def readInt (base : Nat) (t : Text) : Option Int :=
  let (negative, rest) := readSign t.trim
  (readDigits? base (dropBaseMark base rest)).map (withSign negative)

def readStrictInt (t : Text) : Option Int :=
  let (negative, digits) := match t with
    | .char '-' :: rest => (true, rest)
    | _ => (false, t)
  if digits.all Symbol.isDigit
      && (digits.length ≤ 1 || digits.head? != some (.char '0')) then
    (readDigits? 10 digits).map (withSign negative)
  else none

end SearchTemplate.Number
