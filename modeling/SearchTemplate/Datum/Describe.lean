import SearchTemplate.Datum.Basic
import SearchTemplate.Number.Integer
import SearchTemplate.Number.Shortest
import SearchTemplate.Text.Digit

/-!
# Naming a key

The text by which a message names the key of a map: a text stands for itself, a truth value for
its number, and any other key is written out, unless it is a number with too many digits.
-/

namespace SearchTemplate.Datum

/-- A byte between single quotes, escaped unless it is printable ASCII. -/
def describeByte (quote : Char) (b : UInt8) : Text :=
  let c := Char.ofNat b.toNat
  if c = quote ∨ c = '\\' then [.char '\\', .char c]
  else if c = '\n' then .ofString "\\n"
  else if c = '\r' then .ofString "\\r"
  else if c = '\t' then .ofString "\\t"
  else if 0x20 ≤ b ∧ b < 0x7F then [.char c]
  else Text.ofString "\\x" ++ [.lowerHex (b.toNat / 16), .lowerHex (b.toNat % 16)]

/-- Bytes between quotes, double ones if only single ones occur inside. -/
def describeBytes (bs : List UInt8) : Text :=
  let quote := if bs.contains 0x27 && !bs.contains 0x22 then '"' else '\''
  .char 'b' :: .char quote :: bs.flatMap (describeByte quote) ++ [.char quote]

/-- The name of a key. Collections are no keys and have none. -/
def keyName : Datum → Text
  | null => .ofString "None"
  | bool b => if b then .ofString "1" else .ofString "0"
  | int n => if Number.isTooLong n then .ofString "<unprintable int object>" else .ofInt n
  | real x => x.toText "inf" "nan"
  | str t => t
  | bytes bs => describeBytes bs
  | date d => d.describe
  | moment m => m.describe
  | list _ => []
  | set _ => []
  | map _ => []

end SearchTemplate.Datum
