import SearchTemplate.Percent.UnsafeSet
import SearchTemplate.Text.Blank

/-!
# Configurations

A `Config` holds the delimiters of the wire format, the limits for placeholders, and the ranges
of unsafe codes. Its fields carry what every configuration guarantees: the delimiters are
visible and differ, the limits leave room for one placeholder and one symbol, and no range is
empty or holds the space, which marks word ends in queries.
-/

namespace SearchTemplate

/-- A text that can separate others: it has a symbol that is no blank. -/
structure Delimiter where
  text : Text
  visible : text.isBlank = false := by decide
  deriving DecidableEq, Repr

namespace CodeRange

def space : Nat := 0x20

/-- Neither empty nor with the space in it. -/
def Usable (r : CodeRange) : Prop := r.lo ≤ r.hi ∧ r.contains space = false

instance (r : CodeRange) : Decidable r.Usable := inferInstanceAs (Decidable (_ ∧ _))

end CodeRange

structure Config where
  entryDelimiter : Delimiter := ⟨Text.ofString "<|>", by decide⟩
  dataDelimiter : Delimiter := ⟨Text.ofString "<>", by decide⟩
  queryDelimiter : Delimiter := ⟨Text.ofString "%%", by decide⟩
  maxPlaceholders : Nat := 8
  maxDelimiterLength : Nat := 7
  unsafeRanges : List CodeRange :=
    [⟨0x00, 0x1F⟩, ⟨0x21, 0x22⟩, ⟨0x24, 0x24⟩, ⟨0x27, 0x2C⟩, ⟨0x3B, 0x3C⟩, ⟨0x3E, 0x3E⟩,
      ⟨0x40, 0x40⟩, ⟨0x5B, 0x5E⟩, ⟨0x60, 0x60⟩, ⟨0x7B, 0xFF⟩]
  entry_ne_data : entryDelimiter ≠ dataDelimiter := by decide
  entry_ne_query : entryDelimiter ≠ queryDelimiter := by decide
  data_ne_query : dataDelimiter ≠ queryDelimiter := by decide
  one_le_maxPlaceholders : 1 ≤ maxPlaceholders := by decide
  maxPlaceholders_le : maxPlaceholders ≤ 99 := by decide
  one_le_maxDelimiterLength : 1 ≤ maxDelimiterLength := by decide
  usable : ∀ r ∈ unsafeRanges, r.Usable := by decide
  deriving DecidableEq, Repr

namespace Config

/-- The configuration in which nothing is set. -/
def standard : Config := {}

/-- What is unsafe inside a query. -/
def queryUnsafe (c : Config) : Except CodeOutOfRange UnsafeSet :=
  UnsafeSet.ofRanges c.unsafeRanges

/-- What is unsafe in the literal text of a URL: the same and the space. -/
def urlUnsafe (c : Config) : Except CodeOutOfRange UnsafeSet :=
  c.queryUnsafe.map fun u => ⟨⟨CodeRange.space, CodeRange.space⟩ :: u.ranges⟩

end Config

end SearchTemplate
