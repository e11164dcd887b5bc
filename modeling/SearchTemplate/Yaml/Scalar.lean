import SearchTemplate.Datum.Basic
import SearchTemplate.Number.Decimal
import SearchTemplate.Text.Base64
import SearchTemplate.Yaml.Fault
import SearchTemplate.Yaml.Timestamp

/-!
# Values of scalars

`scalarValue` is the value that the text of a scalar has under a tag. Integers may be written in
base two, eight (with a zero in front), ten, sixteen, or with places of sixty between colons;
other numbers may have places of sixty too. Underscores in numbers are ignored.
-/

namespace SearchTemplate.Yaml

def withoutUnderscores (t : Text) : Text := t.filter (· != .char '_')

def numberOf {α : Type} (n : Option α) : Except Fault α :=
  match n with
  | some a => .ok a
  | none => .error .notANumber

/-- The value of places of sixty, the last one first. -/
def sexagesimalInt : List Int → Int
  | [] => 0
  | place :: rest => place + 60 * sexagesimalInt rest

def unsignedInt (t : Text) : Except Fault Int :=
  match t with
  | [] => .error .emptyNumber
  | .char '0' :: .char 'b' :: rest => numberOf (Number.readInt 2 rest)
  | .char '0' :: .char 'x' :: rest => numberOf (Number.readInt 16 rest)
  | .char '0' :: _ => numberOf (Number.readInt 8 t)
  | _ => do
    let places ← (Tag.colonPieces t).mapM fun piece => numberOf (Number.readInt 10 piece)
    return sexagesimalInt places.reverse

def intValue (text : Text) : Except Fault Int := do
  let (negative, t) := Number.readSign (withoutUnderscores text)
  let n ← unsignedInt t
  return if negative then -n else n

/-- Adds up places of sixty, the last one first, each worth `unit`. -/
def sexagesimalReal (unit : Nat) (sum : Binary64) : List Binary64 → Except Fault Binary64
  | [] => .ok sum
  | place :: rest =>
    match Binary64.ofNat unit with
    | .infinite _ => .error .numberTooLarge
    | u => sexagesimalReal (unit * 60) (sum.add (place.mul u)) rest

def unsignedReal (t : Text) : Except Fault Binary64 :=
  if t = .ofString ".inf" then .ok (.infinite false)
  else if t = .ofString ".nan" then .ok .nan
  else
    match Tag.colonPieces t with
    | first :: second :: rest => do
      let places ← (first :: second :: rest).mapM fun piece => numberOf (Number.readReal piece)
      sexagesimalReal 1 (Binary64.ofNat 0) places.reverse
    | _ => numberOf (Number.readReal t)

def realValue (text : Text) : Except Fault Binary64 := do
  let t := Number.lower (withoutUnderscores text)
  if t.isEmpty then throw .emptyNumber
  let (negative, t) := Number.readSign t
  let x ← unsignedReal t
  return if negative then x.neg else x

def boolValue (text : Text) : Except Fault Bool :=
  let t := Number.lower text
  if Tag.isWord ["yes", "true", "on"] t then .ok true
  else if Tag.isWord ["no", "false", "off"] t then .ok false
  else .error .notATruthValue

def timestampValue (text : Text) : Except Fault Datum :=
  match Timestamp.ofText? (Tag.dropLineFeed text) with
  | none => .error .notAMoment
  | some stamp =>
    match stamp.moment? with
    | none => if stamp.date.isValid then .ok (.date stamp.date) else .error .noSuchMoment
    | some m => if m.isValid then .ok (.moment m) else .error .noSuchMoment

def isAscii (s : Symbol) : Bool := s.code < 0x80

def binaryValue (text : Text) : Except Fault Datum :=
  match if text.all isAscii then Base64.decode? text else none with
  | some bytes => .ok (.bytes bytes)
  | none => .error .malformed

def scalarValue (text : Text) : Tag → Except Fault Datum
  | .null => .ok .null
  | .bool => (boolValue text).map .bool
  | .int => (intValue text).map .int
  | .float => (realValue text).map .real
  | .binary => binaryValue text
  | .timestamp => timestampValue text
  | .str => .ok (.str text)
  | _ => .error .malformed

end SearchTemplate.Yaml
