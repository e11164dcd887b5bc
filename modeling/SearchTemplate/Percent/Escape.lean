import SearchTemplate.Percent.Encode
import SearchTemplate.Text.Sections

/-!
# The escape mark

Two backslashes keep the symbol after them from being written in percent form. The mark itself
is not written.
-/

namespace SearchTemplate.Percent

def escapeMark : Text := [.char '\\', .char '\\']

/-- The first symbol as it is, the others encoded. -/
def keepFirst (u : UnsafeSet) (chunk : Text) : Text :=
  chunk.take 1 ++ encode u (chunk.drop 1)

def escapeChunks (u : UnsafeSet) : List Text → Text
  | [] => []
  | first :: rest => encode u first ++ rest.flatMap (keepFirst u)

/-- Encodes a text except for the symbols that follow an escape mark. -/
def escape (u : UnsafeSet) (t : Text) : Text :=
  escapeChunks u (Text.dropTrailingEmpty (t.splitOn escapeMark))

end SearchTemplate.Percent
