import SearchTemplate.Json.Basic
import SearchTemplate.Text.Digit

/-!
# Reading JSON

`Json.read` reads one value with blanks around it. Of two fields with one key the later value
counts, at the place of the earlier. The words that `Json.print` writes for numbers that are not
finite are read back too. Numbers may have any number of digits here, and values any depth.
-/

namespace SearchTemplate.Json

def isBlank (s : Symbol) : Bool :=
  s = .char ' ' || s = .char '\n' || s = .char '\r' || s = .char '\t'

def skipBlanks (t : Text) : Text := t.dropWhile isBlank

/-- The rest after a given symbol, with blanks in front of it. -/
def expect (s : Symbol) (t : Text) : Option Text :=
  match skipBlanks t with
  | x :: rest => if x = s then some rest else none
  | [] => none

/-! ## Strings -/

/-- The character of an escape with a single letter. -/
def shortEscape? : Symbol → Option Char
  | .char '"' => some '"'
  | .char '\\' => some '\\'
  | .char '/' => some '/'
  | .char 'b' => some '\x08'
  | .char 'f' => some '\x0c'
  | .char 'n' => some '\n'
  | .char 'r' => some '\r'
  | .char 't' => some '\t'
  | _ => none

/-- The low half of a surrogate pair at the head of a text. -/
def lowSurrogate? : Text → Option Nat
  | .char '\\' :: .char 'u' :: a :: b :: c :: d :: _ => do
    let unit ← Text.hexNumber? [a, b, c, d]
    if 0xDC00 ≤ unit ∧ unit < 0xE000 then some (unit - 0xDC00) else none
  | _ => none

/-- The symbol that an escape stands for and the length of the escape. -/
def escape? : Text → Option (Symbol × Nat)
  | .char '\\' :: .char 'u' :: a :: b :: c :: d :: rest => do
    let unit ← Text.hexNumber? [a, b, c, d]
    if 0xD800 ≤ unit ∧ unit < 0xDC00 then
      let low ← lowSurrogate? rest
      return (.char (Char.ofNat (0x10000 + (unit - 0xD800) * 0x400 + low)), 12)
    else if 0xDC00 ≤ unit ∧ unit < 0xE000 then (Symbol.ofStrayCode? unit).map fun s => (s, 6)
    else return (.char (Char.ofNat unit), 6)
  | .char '\\' :: s :: _ => (shortEscape? s).map fun c => (.char c, 2)
  | _ => none

/-- The content of a string up to its closing mark, and what follows. The first `skip` symbols
belong to an escape already read. -/
def readStringFrom : Nat → Text → Option (Text × Text)
  | _, [] => none
  | skip + 1, _ :: rest => readStringFrom skip rest
  | 0, s :: rest =>
    if s = .char '"' then some ([], rest)
    else if s = .char '\\' then
      match escape? (s :: rest) with
      | some (x, n + 1) => (readStringFrom n rest).map fun r => (x :: r.1, r.2)
      | _ => none
    else if s.code < 0x20 then none
    else (readStringFrom 0 rest).map fun r => (s :: r.1, r.2)

/-! ## Numbers -/

/-- The digits at the head of a text and the rest. -/
def spanDigits (t : Text) : Text × Text := t.span Symbol.isDigit

/-- The digits of a fraction, if there is one. -/
def readFraction (t : Text) : Text × Text :=
  match t with
  | .char '.' :: rest =>
    match spanDigits rest with
    | ([], _) => ([], t)
    | digits => digits
  | _ => ([], t)

def readSignedDigits (t : Text) : Option (Int × Text) :=
  let (negative, rest) := match t with
    | .char '-' :: rest => (true, rest)
    | .char '+' :: rest => (false, rest)
    | _ => (false, t)
  match spanDigits rest with
  | ([], _) => none
  | (ds, rest) => some (if negative then -(ds.number : Int) else ds.number, rest)

/-- An exponent, if there is one. -/
def readExponent (t : Text) : Option Int × Text :=
  match t with
  | s :: rest =>
    if s = .char 'e' ∨ s = .char 'E' then
      match readSignedDigits rest with
      | some (e, rest) => (some e, rest)
      | none => (none, t)
    else (none, t)
  | [] => (none, [])

/-- The magnitude of a number, after its sign. -/
def readMagnitude (negative : Bool) (t : Text) : Option (Json × Text) :=
  match spanDigits t with
  | ([], _) => none
  | (whole, rest) =>
    if 1 < whole.length ∧ whole.head? = some (.char '0') then none
    else
      let (fraction, rest) := readFraction rest
      let (exponent, rest) := readExponent rest
      if fraction = [] ∧ exponent = none then
        let n : Int := whole.number
        some (.int (if negative then -n else n), rest)
      else
        let power := exponent.getD 0 - fraction.length
        some (.real (.ofDecimal negative ((whole ++ fraction).number) power), rest)

/-! ## Values -/

/-- Reads a given word. -/
def readWord (word : String) (v : Json) (t : Text) : Option (Json × Text) :=
  let w := Text.ofString word
  if w.isPrefixOf t then some (v, t.drop w.length) else none

def readNumber : Text → Option (Json × Text)
  | .char '-' :: .char 'I' :: rest => readWord "nfinity" (.real (.infinite true)) rest
  | .char '-' :: rest => readMagnitude true rest
  | t => readMagnitude false t

mutual

/-- Reads a value at the head of a text. The depth of the value is at most `fuel`. -/
def readValue : Nat → Text → Option (Json × Text)
  | 0, _ => none
  | fuel + 1, t =>
    match skipBlanks t with
    | [] => none
    | .char '"' :: rest => (readStringFrom 0 rest).map fun r => (.str r.1, r.2)
    | .char '[' :: rest =>
      match expect (.char ']') rest with
      | some rest => some (.arr [], rest)
      | none => (readItems fuel rest).map fun r => (.arr r.1, r.2)
    | .char '\x7b' :: rest =>
      match expect (.char '\x7d') rest with
      | some rest => some (.obj [], rest)
      | none => (readFields fuel [] rest).map fun r => (.obj r.1, r.2)
    | .char 'n' :: rest => readWord "ull" .null rest
    | .char 't' :: rest => readWord "rue" (.bool true) rest
    | .char 'f' :: rest => readWord "alse" (.bool false) rest
    | .char 'N' :: rest => readWord "aN" (.real .nan) rest
    | .char 'I' :: rest => readWord "nfinity" (.real (.infinite false)) rest
    | t => readNumber t

/-- Reads the items of an array up to its end. -/
def readItems : Nat → Text → Option (List Json × Text)
  | 0, _ => none
  | fuel + 1, t => do
    let (v, rest) ← readValue fuel t
    match expect (.char ',') rest with
    | some rest =>
      let (items, rest) ← readItems fuel rest
      return (v :: items, rest)
    | none => return ([v], ← expect (.char ']') rest)

/-- Reads the fields of an object up to its end, after the fields `found`. -/
def readFields : Nat → List (Text × Json) → Text → Option (List (Text × Json) × Text)
  | 0, _, _ => none
  | fuel + 1, found, t => do
    let rest ← expect (.char '"') t
    let (key, rest) ← readStringFrom 0 rest
    let rest ← expect (.char ':') rest
    let (v, rest) ← readValue fuel rest
    let found := setField key v found
    match expect (.char ',') rest with
    | some rest => readFields fuel found rest
    | none => return (found, ← expect (.char '\x7d') rest)

end

/-- The value that a text holds. -/
def read (t : Text) : Option Json :=
  match readValue (t.length + 1) t with
  | some (v, rest) => if (skipBlanks rest).isEmpty then some v else none
  | none => none

end SearchTemplate.Json
