import SearchTemplate.Percent.Escape
import SearchTemplate.Text.Blank

/-!
# Rendering a query

The query is escaped, and every blank that is left stands for the placeholder's delimiter.
-/

namespace SearchTemplate.Query

def render (u : UnsafeSet) (delimiter q : Text) : Text :=
  (Percent.escape u q).flatMap fun s => if s.isBlank then delimiter else [s]

end SearchTemplate.Query
