import SearchTemplate.Config.Basic
import SearchTemplate.Text.Sections

/-!
# Splitting query fragments

Fragments are joined by spaces and cut at the query delimiters, each together with the blanks
around it. Delimiters before the first query fall away, so that it always has number one.
-/

namespace SearchTemplate

namespace Delimiter

/-- The text after the last occurrence of `d` that only blanks precede. -/
def afterBlanks? (d : Text) : Text → Option Text
  | [] => if d.isEmpty then some [] else none
  | s :: rest =>
    match if s.isBlank then afterBlanks? d rest else none with
    | some after => some after
    | none => if d.isPrefixOf (s :: rest) then some ((s :: rest).drop d.length) else none

/-- A delimiter together with the blanks on both sides. -/
def spaced (d : Text) : Pattern Unit := fun t =>
  (afterBlanks? d t).map fun after => ((), t.length - after.trimStart.length)

end Delimiter

namespace Query

/-- The fragments as one text, without the delimiters and blanks that open it. -/
def source (c : Config) (fragments : List Text) : Text :=
  Pattern.dropLeading (Delimiter.spaced c.queryDelimiter.text) (Text.join space fragments).trim

def split (c : Config) (fragments : List Text) : List Text :=
  match source c fragments with
  | [] => []
  | t =>
    Text.dropTrailingEmpty (Sections.scan (Delimiter.spaced c.queryDelimiter.text) t).pieces

end Query

end SearchTemplate
