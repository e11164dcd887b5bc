import SearchTemplate.Text.Digit

/-!
# Tags

A tag says what kind of value a node is. A plain scalar without a tag gets the tag of the first
kind of value that it looks like (`Tag.ofPlain`).
-/

namespace SearchTemplate.Yaml

inductive Tag where
  | null
  | bool
  | int
  | float
  | binary
  | timestamp
  | str
  | seq
  | map
  | set
  | omap
  | pairs
  /-- The key of a mapping whose entries are taken over. -/
  | merge
  /-- The key of the value that a mapping stands for. -/
  | value
  /-- Any other tag. No node of it has a value. -/
  | other (name : Text)
  deriving DecidableEq, Repr

namespace Tag

def standardPrefix : Text := .ofString "tag:yaml.org,2002:"

/-- The standard tags by their names. -/
def standard : List (String × Tag) :=
  [("null", null), ("bool", bool), ("int", int), ("float", float), ("binary", binary),
    ("timestamp", timestamp), ("str", str), ("seq", seq), ("map", map), ("set", set),
    ("omap", omap), ("pairs", pairs), ("merge", merge), ("value", value)]

/-- The tag with a full name. -/
def ofName (name : Text) : Tag :=
  match standard.find? fun entry => standardPrefix ++ Text.ofString entry.1 == name with
  | some entry => entry.2
  | none => other name

/-! ## Plain scalars -/

def among (set : String) (s : Symbol) : Bool := (Text.ofString set).contains s

/-- A text of at least one symbol, all of them with a property. -/
def some1 (p : Symbol → Bool) (t : Text) : Bool := !t.isEmpty && t.all p

def dropSign : Text → Text
  | .char '+' :: rest => rest
  | .char '-' :: rest => rest
  | t => t

/-- A number of one or two digits below sixty, after a colon. -/
def isSixtieth : Text → Bool
  | [x] => x.isDigit
  | [x, y] => among "012345" x && y.isDigit
  | _ => false

/-- The pieces of a text between colons. -/
def colonPieces : Text → List Text
  | [] => [[]]
  | s :: rest =>
    match colonPieces rest with
    | [] => [[s]]
    | piece :: pieces =>
      if s = .char ':' then [] :: piece :: pieces else (s :: piece) :: pieces

/-- Digits and underscores after a digit. -/
def isDigits : Text → Bool
  | [] => false
  | s :: rest => s.isDigit && rest.all fun x => x.isDigit || x == .char '_'

/-- As `isDigits`, but without a zero in front. -/
def isNonzeroDigits (t : Text) : Bool := isDigits t && t.head? != some (.char '0')

/-- An integer with places of sixty. -/
def isSexagesimal (isFirst : Text → Bool) (t : Text) : Bool :=
  match colonPieces t with
  | first :: next :: rest => isFirst first && (next :: rest).all isSixtieth
  | _ => false

def looksInt (t : Text) : Bool :=
  match dropSign t with
  | .char '0' :: .char 'b' :: rest => some1 (among "01_") rest
  | .char '0' :: .char 'x' :: rest => some1 (among "0123456789abcdefABCDEF_") rest
  | [.char '0'] => true
  | .char '0' :: rest => some1 (among "01234567_") rest
  | rest => isNonzeroDigits rest || isSexagesimal isNonzeroDigits rest

/-- Nothing, or an exponent with a sign. -/
def isExponent : Text → Bool
  | [] => true
  | s :: sign :: digits => among "eE" s && among "+-" sign && some1 Symbol.isDigit digits
  | _ => false

/-- What stands before the first point, and what stands after it. -/
def cutPoint : Text → Option (Text × Text)
  | [] => none
  | .char '.' :: rest => some ([], rest)
  | s :: rest => (cutPoint rest).map fun cut => (s :: cut.1, cut.2)

def looksDecimal (t : Text) : Bool :=
  match cutPoint t with
  | none => false
  | some (whole, rest) =>
    let fraction := rest.takeWhile fun x => x.isDigit || x == .char '_'
    let exponent := rest.drop fraction.length
    (isDigits (dropSign whole) && isExponent exponent)
      || (whole.isEmpty && isDigits fraction && isExponent exponent)
      || (isSexagesimal isDigits (dropSign whole) && exponent.isEmpty)

def isWord (words : List String) (t : Text) : Bool := words.any fun w => Text.ofString w == t

def looksFloat (t : Text) : Bool :=
  looksDecimal t || isWord [".inf", ".Inf", ".INF"] (dropSign t)
    || isWord [".nan", ".NaN", ".NAN"] t

def looksBool : Text → Bool :=
  isWord ["yes", "Yes", "YES", "no", "No", "NO", "true", "True", "TRUE", "false", "False",
    "FALSE", "on", "On", "ON", "off", "Off", "OFF"]

def looksNull : Text → Bool := isWord ["", "~", "null", "Null", "NULL"]

/-- A line feed at the end of a scalar does not change what it looks like, unless nothing else is
there. -/
def dropLineFeed (t : Text) : Text :=
  match t.reverse with
  | .char '\n' :: s :: rest => (s :: rest).reverse
  | _ => t

end Tag

end SearchTemplate.Yaml
