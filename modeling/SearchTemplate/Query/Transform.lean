import SearchTemplate.Placeholder.Options
import SearchTemplate.Text.Sections
import SearchTemplate.Text.Words

/-!
# Transforming a query

`Query.transform` applies the options of a placeholder in a fixed order: words are picked, then
put in upper case, capitalized and reversed, and percent forms of commas are dropped at the end.
Positions count words from zero, and negative ones from the end.
-/

namespace SearchTemplate.Query

/-- The index among `n` words that a position stands for. -/
def wordIndex? (n : Nat) (position : Int) : Option Nat :=
  if 0 ≤ position then
    if position.toNat < n then some position.toNat else none
  else if 0 ≤ position + n then some (position + n).toNat
  else none

/-- The words at the positions, one after the other, without blanks at the end. -/
def pickWords (positions : List Int) (q : Text) : Text :=
  let words := q.words
  let picked := positions.filterMap fun p => (wordIndex? words.length p).bind (words[·]?)
  Text.trimEnd picked.flatten

/-- The words with the one at a position in upper case. -/
def uppercaseWord (words : List Text) (position : Int) : List Text :=
  match wordIndex? words.length position with
  | some i => words.modify i Text.uppercase
  | none => words

def uppercase (u : Uppercase) (q : Text) : Text :=
  match u with
  | .allWords => Text.uppercase q
  | .positions [] => q
  | .positions indexes => (indexes.foldl uppercaseWord q.words).flatten

def encodedComma : Text := .ofString "%2C"

def transform (o : Options) (q : Text) : Text :=
  let q := if o.wordPositions.isEmpty then q else pickWords o.wordPositions q
  let q := uppercase o.uppercase q
  let q := if o.capitalize then Text.capitalize q else q
  let q := if o.reverse then Text.reverseRuns q else q
  if o.stripCommas then Text.erase q encodedComma else q

end SearchTemplate.Query
