import SearchTemplate.Datum.Moment
import SearchTemplate.Json.Basic

/-!
# Data

A `Datum` is a value of a data file, before anything is known about what it is for. Maps keep
their entries in order, and their keys may be data of any kind. `Datum.ofJson` reads a JSON value
as a datum.
-/

namespace SearchTemplate

inductive Datum where
  | null
  | bool (b : Bool)
  | int (n : Int)
  | real (x : Binary64)
  | str (t : Text)
  | bytes (bs : List UInt8)
  | date (d : Date)
  | moment (m : Moment)
  | list (items : List Datum)
  | set (items : List Datum)
  | map (entries : List (Datum × Datum))
  deriving Repr, Inhabited

namespace Datum

mutual

def ofJson : Json → Datum
  | .null => .null
  | .bool b => .bool b
  | .int n => .int n
  | .real x => .real x
  | .str t => .str t
  | .arr items => .list (ofJsonItems items)
  | .obj fields => .map (ofJsonFields fields)

def ofJsonItems : List Json → List Datum
  | [] => []
  | v :: rest => ofJson v :: ofJsonItems rest

def ofJsonFields : List (Text × Json) → List (Datum × Datum)
  | [] => []
  | (k, v) :: rest => (.str k, ofJson v) :: ofJsonFields rest

end

/-- The items of a list or a set, which holds its members in its own order. -/
def items? : Datum → Option (List Datum)
  | list items => some items
  | set items => some items
  | _ => none

/-- The integer that a truth value, an integer or an integral number equals. -/
def integer? : Datum → Option Int
  | bool b => some (if b then 1 else 0)
  | int n => some n
  | real x => x.toInt?
  | _ => none

/-- Two keys that stand for one entry of a map: numbers and truth values of one value, equal
texts, and so on. Collections are no keys. -/
def sameKey (x y : Datum) : Bool :=
  match x.integer?, y.integer? with
  | some m, some n => m == n
  | none, none =>
    match x, y with
    | null, null => true
    | real a, real b => a == b
    | str s, str t => s == t
    | bytes s, bytes t => s == t
    | date a, date b => a == b
    | moment a, moment b => a.same b
    | _, _ => false
  | _, _ => false

/-- Not a collection. -/
def isScalar : Datum → Bool
  | list _ => false
  | set _ => false
  | map _ => false
  | _ => true

/-- Sets an entry: in its place, under the first spelling of the key, or at the end. -/
def setEntry (key value : Datum) : List (Datum × Datum) → List (Datum × Datum)
  | [] => [(key, value)]
  | (k, v) :: rest =>
    if k.sameKey key then (k, value) :: rest else (k, v) :: setEntry key value rest

/-- The value of an entry whose key is a text. -/
def lookup? (key : Text) : List (Datum × Datum) → Option Datum
  | [] => none
  | (.str k, v) :: rest => if k = key then some v else lookup? key rest
  | _ :: rest => lookup? key rest

end Datum

end SearchTemplate
