import SearchTemplate.Json.Basic
import SearchTemplate.Number.Integer
import SearchTemplate.Number.Shortest
import SearchTemplate.Text.Digit

/-!
# Writing JSON

The compact text of a value on one line. Only quotation marks, backslashes and control
characters are escaped. `Json.canonical` is the text of the sorted value.

Every value has a text (`Json.print`), but not every value can be written: a number may have too
many digits, and arrays and objects may lie too deep in one another for the stack of the writer.
`Json.writeFault?` is the reason, and `Json.write` writes the text if there is none.
-/

namespace SearchTemplate.Json

def quote : Symbol := .char '"'

/-- A symbol inside of quotation marks. -/
def escapeSymbol (s : Symbol) : Text :=
  if s = quote then .ofString "\\\""
  else if s = .char '\\' then .ofString "\\\\"
  else if s = .char '\n' then .ofString "\\n"
  else if s = .char '\r' then .ofString "\\r"
  else if s = .char '\t' then .ofString "\\t"
  else if s = .char '\x08' then .ofString "\\b"
  else if s = .char '\x0c' then .ofString "\\f"
  else if s.code < 0x20 then
    Text.ofString "\\u00" ++ [.lowerHex (s.code / 16), .lowerHex (s.code % 16)]
  else [s]

def printString (t : Text) : Text := quote :: t.flatMap escapeSymbol ++ [quote]

mutual

def print : Json → Text
  | .null => .ofString "null"
  | .bool true => .ofString "true"
  | .bool false => .ofString "false"
  | .int n => .ofInt n
  | .real x => x.toText "Infinity" "NaN"
  | .str t => printString t
  | .arr items => .char '[' :: printItems items ++ [.char ']']
  | .obj fields => .char '\x7b' :: printFields fields ++ [.char '\x7d']

def printItems : List Json → Text
  | [] => []
  | [v] => v.print
  | v :: w :: rest => v.print ++ .char ',' :: printItems (w :: rest)

def printFields : List (Text × Json) → Text
  | [] => []
  | [(k, v)] => printString k ++ .char ':' :: v.print
  | (k, v) :: f :: rest =>
    printString k ++ .char ':' :: v.print ++ .char ',' :: printFields (f :: rest)

end

def canonical (v : Json) : Text := v.sorted.print

/-! ## Values that cannot be written -/

inductive WriteFault where
  /-- A number with too many digits. -/
  | tooLong
  /-- More arrays and objects inside of one another than there is room for. -/
  | tooDeep
  deriving DecidableEq, Repr

mutual

/-- The first reason why a value is not written, in the order of its text. There is room for `room`
arrays and objects inside of one another. -/
def writeFault? : Nat → Json → Option WriteFault
  | _, .int n => if Number.isTooLong n then some .tooLong else none
  | 0, .arr _ => some .tooDeep
  | 0, .obj _ => some .tooDeep
  | room + 1, .arr items => itemsFault? room items
  | room + 1, .obj fields => fieldsFault? room fields
  | _, .null => none
  | _, .bool _ => none
  | _, .real _ => none
  | _, .str _ => none

def itemsFault? : Nat → List Json → Option WriteFault
  | _, [] => none
  | room, v :: rest => (writeFault? room v).or (itemsFault? room rest)

def fieldsFault? : Nat → List (Text × Json) → Option WriteFault
  | _, [] => none
  | room, (_, v) :: rest => (writeFault? room v).or (fieldsFault? room rest)

end

def write (room : Nat) (v : Json) : Except WriteFault Text :=
  match v.writeFault? room with
  | none => .ok v.print
  | some fault => .error fault

end SearchTemplate.Json
