import SearchTemplate.Text.CodeRange

/-!
# Blanks

The symbols that separate words: the characters that Unicode classes as separators or gives
the bidirectional type of one, the ASCII information separators among them. `Text.trim` takes
them off both ends.
-/

namespace SearchTemplate

/-- Codes of the blanks, in ascending order. -/
def blankCodes : List CodeRange :=
  [⟨0x9, 0xD⟩, ⟨0x1C, 0x20⟩, ⟨0x85, 0x85⟩, ⟨0xA0, 0xA0⟩, ⟨0x1680, 0x1680⟩, ⟨0x2000, 0x200A⟩,
    ⟨0x2028, 0x2029⟩, ⟨0x202F, 0x202F⟩, ⟨0x205F, 0x205F⟩, ⟨0x3000, 0x3000⟩]

/-- The text of one space. -/
def space : Text := [.char ' ']

namespace Symbol

def isBlank : Symbol → Bool
  | char c => blankCodes.any (·.contains c.toNat)
  | stray _ _ => false

end Symbol

namespace Text

def trimStart (t : Text) : Text := t.dropWhile Symbol.isBlank

def trimEnd (t : Text) : Text := (t.reverse.dropWhile Symbol.isBlank).reverse

def trim (t : Text) : Text := (trimStart t).trimEnd

/-- Nothing but blanks. -/
def isBlank (t : Text) : Bool := t.all Symbol.isBlank

end Text

end SearchTemplate
