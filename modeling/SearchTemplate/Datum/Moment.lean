import SearchTemplate.Text.Symbol

/-!
# Dates and moments

Days of the Gregorian calendar from year 1 to 9999, and moments of a day with or without the
offset of their time zone. `Date.describe` and `Moment.describe` are the texts that name one in a
message.
-/

namespace SearchTemplate

structure Date where
  year : Nat
  month : Nat
  day : Nat
  deriving DecidableEq, Repr

namespace Date

def isLeapYear (year : Nat) : Bool := year % 4 == 0 && (year % 100 != 0 || year % 400 == 0)

def daysInMonth (year month : Nat) : Nat :=
  if month = 2 then (if isLeapYear year then 29 else 28)
  else if month = 4 ∨ month = 6 ∨ month = 9 ∨ month = 11 then 30
  else 31

/-- The day exists. -/
def isValid (d : Date) : Bool :=
  1 ≤ d.year && d.year ≤ 9999 && 1 ≤ d.month && d.month ≤ 12 && 1 ≤ d.day
    && d.day ≤ daysInMonth d.year d.month

/-- Days since the start of year zero. -/
def dayNumber (d : Date) : Nat :=
  let y := d.year - 1
  y * 365 + y / 4 - y / 100 + y / 400
    + (List.range (d.month - 1)).foldl (fun days m => days + daysInMonth d.year (m + 1)) 0 + d.day

/-- The numbers with a comma and a space between them. -/
def listNumbers (ns : List Nat) : Text := Text.join (.ofString ", ") (ns.map Text.ofNat)

def describe (d : Date) : Text :=
  .ofString "datetime.date(" ++ listNumbers [d.year, d.month, d.day] ++ .ofString ")"

end Date

structure Moment where
  date : Date
  hour : Nat
  minute : Nat
  second : Nat
  microsecond : Nat
  /-- Minutes ahead of universal time, if the time zone is known. -/
  offset : Option Int
  deriving DecidableEq, Repr

namespace Moment

/-- The time of day exists, and the offset is shorter than a day. -/
def isValid (m : Moment) : Bool :=
  m.date.isValid && m.hour < 24 && m.minute < 60 && m.second < 60
    && m.offset.all fun minutes => minutes.natAbs < 24 * 60

/-- Microseconds since the start of year zero, in universal time if the offset is known. -/
def instant (m : Moment) : Int :=
  let minutes : Int := (m.date.dayNumber * 24 + m.hour) * 60 + m.minute - m.offset.getD 0
  (minutes * 60 + m.second) * 1000000 + m.microsecond

/-- Two ways to write the same moment. Moments with and without an offset are never the same. -/
def same (a b : Moment) : Bool := a.offset.isSome == b.offset.isSome && a.instant == b.instant

/-- A number of a time span with its name, unless it is zero. -/
def describePart (name : String) (n : Int) : List Text :=
  if n = 0 then [] else [Text.ofString name ++ Text.ofInt n]

/-- The time zone with a given offset, as days and seconds. -/
def describeOffset (minutes : Int) : Text :=
  let day := 24 * 60
  let parts := describePart "days=" (minutes / day) ++ describePart "seconds=" (minutes % day * 60)
  if parts.isEmpty then .ofString "datetime.timezone.utc"
  else
    .ofString "datetime.timezone(datetime.timedelta(" ++ Text.join (.ofString ", ") parts
      ++ .ofString "))"

/-- Seconds are left out if they and the microseconds are zero, and microseconds if they are. -/
def describe (m : Moment) : Text :=
  let seconds :=
    if m.microsecond ≠ 0 then [m.second, m.microsecond]
    else if m.second ≠ 0 then [m.second]
    else []
  let numbers := [m.date.year, m.date.month, m.date.day, m.hour, m.minute] ++ seconds
  let zone : Text :=
    match m.offset with
    | none => []
    | some minutes => .ofString ", tzinfo=" ++ describeOffset minutes
  .ofString "datetime.datetime(" ++ Date.listNumbers numbers ++ zone ++ .ofString ")"

end Moment

end SearchTemplate
