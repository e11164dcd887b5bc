import SearchTemplate.Query.Split

/-!
# Entries of a URL list

A URL list holds entries between entry delimiters. Delimiters that open the list fall away with
the blanks around them, and so do empty entries at its end. The data suffix of an entry starts
at its first data delimiter and is kept as it is.
-/

namespace SearchTemplate

structure Entry where
  url : Text
  data : Option Text := none
  deriving DecidableEq, Repr

namespace Entry

/-- The text that an entry is read from. -/
def source (e : Entry) : Text := e.url ++ e.data.getD []

/-- Separates the data suffix. -/
def ofText (c : Config) (t : Text) : Entry :=
  match t.breakOn c.dataDelimiter.text with
  | (url, []) => ⟨url, none⟩
  | (url, data) => ⟨url, some data⟩

/-- The URL list without the delimiters that open it. -/
def trimList (c : Config) (raw : Text) : Text :=
  Pattern.dropLeading (Delimiter.spaced c.entryDelimiter.text) raw

def split (c : Config) (raw : Text) : List Entry :=
  (Text.dropTrailingEmpty ((trimList c raw).splitOn c.entryDelimiter.text)).map (ofText c)

end Entry

end SearchTemplate
