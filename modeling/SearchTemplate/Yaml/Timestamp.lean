import SearchTemplate.Datum.Moment
import SearchTemplate.Yaml.Tag

/-!
# Timestamps

A date is written `2001-12-14`. A moment adds a time of day and perhaps a fraction of a second
and a time zone: `2001-12-14t21:59:43.10-05:00`.
-/

namespace SearchTemplate.Yaml

/-- The parts of a timestamp as they are written. -/
structure Timestamp where
  date : Date
  /-- Month and day have two digits each. -/
  wide : Bool
  /-- Hour, minute, second, and the digits of the fraction. -/
  time : Option (Nat × Nat × Nat × Text)
  offset : Option Int
  deriving DecidableEq, Repr

namespace Timestamp

/-- From `least` to `most` digits at the head of a text, and the rest. -/
def digits (least most : Nat) (t : Text) : Option (Text × Text) :=
  let found := (t.take most).takeWhile Symbol.isDigit
  if least ≤ found.length then some (found, t.drop found.length) else none

/-- The rest of a text after a given symbol. -/
def after (c : Char) : Text → Option Text
  | s :: rest => if s = .char c then some rest else none
  | [] => none

def isGap (s : Symbol) : Bool := s = .char ' ' || s = .char '\t'

/-- The rest after what separates a date from a time: the letter T or blanks. -/
def afterGap? (t : Text) : Option Text :=
  match t with
  | .char 'T' :: rest => some rest
  | .char 't' :: rest => some rest
  | s :: rest => if isGap s then some (rest.dropWhile isGap) else none
  | [] => none

/-- Minutes ahead of universal time, at the end of a timestamp. No zone is `none`. -/
def zone? (t : Text) : Option (Option Int) := do
  match t.dropWhile isGap with
  | [] => if t.isEmpty then some none else none
  | [.char 'Z'] => some (some 0)
  | sign :: rest =>
    let (hours, rest) ← digits 1 2 rest
    let (minutes, rest) ←
      match rest with
      | .char ':' :: rest => digits 2 2 rest
      | _ => some ([], rest)
    let offset : Int := hours.number * 60 + minutes.number
    if !rest.isEmpty then none
    else if sign = .char '+' then some (some offset)
    else if sign = .char '-' then some (some (-offset))
    else none

def fraction (t : Text) : Text × Text :=
  match t with
  | .char '.' :: rest => rest.span Symbol.isDigit
  | _ => ([], t)

/-- The parts of a timestamp, if a text has the form of one. -/
def ofText? (t : Text) : Option Timestamp := do
  let (year, rest) ← digits 4 4 t
  let (month, rest) ← digits 1 2 (← after '-' rest)
  let (day, rest) ← digits 1 2 (← after '-' rest)
  let date : Date := ⟨year.number, month.number, day.number⟩
  let wide := month.length == 2 && day.length == 2
  if rest.isEmpty then return ⟨date, wide, none, none⟩
  let (hour, rest) ← digits 1 2 (← afterGap? rest)
  let (minute, rest) ← digits 2 2 (← after ':' rest)
  let (second, rest) ← digits 2 2 (← after ':' rest)
  let (fraction, rest) := fraction rest
  let offset ← zone? rest
  return ⟨date, wide, some (hour.number, minute.number, second.number, fraction), offset⟩

/-- A plain scalar is taken for a timestamp if it has a time, or else two digits for month and
day. -/
def looksPlain (t : Text) : Bool :=
  match ofText? t with
  | some stamp => stamp.time.isSome || stamp.wide
  | none => false

/-- Millionths from the digits of a fraction. -/
def micro (digits : Text) : Nat :=
  Text.number ((digits ++ List.replicate 6 (Symbol.char '0')).take 6)

def moment? (stamp : Timestamp) : Option Moment :=
  stamp.time.map fun (hour, minute, second, fraction) =>
    ⟨stamp.date, hour, minute, second, micro fraction, stamp.offset⟩

end Timestamp

namespace Tag

/-- The tag of a plain scalar by its text. -/
def ofPlain (text : Text) : Tag :=
  let t := dropLineFeed text
  if looksBool t then bool
  else if looksFloat t then float
  else if looksInt t then int
  else if t = .ofString "<<" then merge
  else if looksNull t then null
  else if Timestamp.looksPlain t then timestamp
  else if t = .ofString "=" then value
  else if isWord ["!", "&", "*"] t then other (standardPrefix ++ Text.ofString "yaml")
  else str

end Tag

end SearchTemplate.Yaml
