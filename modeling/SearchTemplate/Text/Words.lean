import SearchTemplate.Text.Blank
import SearchTemplate.Text.WordChar
import SearchTemplate.Text.Uppercase

/-!
# Words and runs

`Text.runs` cuts a text into its maximal runs of blanks and of other symbols. `Text.words` are
its words: each is a run of non-blanks together with the blanks after it, so that the words
joined are the text without its leading blanks.
-/

namespace SearchTemplate.Text

def runs (t : Text) : List Text := t.splitBy fun x y => x.isBlank == y.isBlank

def words (t : Text) : List Text := t.trimStart.splitBy fun x y => !x.isBlank || y.isBlank

/-- The runs in opposite order, each kept as it is. -/
def reverseRuns (t : Text) : Text := t.runs.reverse.flatten

/-- Upper case for each word character at the start of the text or after `before`, if that is
no word character. -/
def capitalizeAfter (before : Bool) : Text → Text
  | [] => []
  | s :: rest =>
    (if s.isWordChar && !before then s.uppercase else [s]) ++ capitalizeAfter s.isWordChar rest

/-- Upper case for each word character that no word character precedes. -/
def capitalize (t : Text) : Text := capitalizeAfter false t

end SearchTemplate.Text
