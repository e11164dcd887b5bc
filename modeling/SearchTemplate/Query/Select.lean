import SearchTemplate.Placeholder.Options

/-!
# Selecting a query

A placeholder takes the query that its options name, or else the one with its own number. A
number past the last query selects nothing; a number below one counts from the end.
-/

namespace SearchTemplate

/-- An index below the first query, counted from the end. -/
structure IndexOutOfRange where
  index : Int
  deriving DecidableEq, Repr

namespace Query

/-- The index from zero of the query that a placeholder asks for. Position zero is the same as
none. -/
def index (p : Placeholder) (o : Options) : Int :=
  match o.queryPosition with
  | none => p.occurrence - 1
  | some position => (if position = 0 then p.occurrence else position) - 1

/-- The query at an index, `none` past the last one. -/
def select (queries : List Text) (index : Int) : Except IndexOutOfRange (Option Text) :=
  if 0 ≤ index then .ok queries[index.toNat]?
  else if 0 ≤ index + queries.length then .ok queries[(index + queries.length).toNat]?
  else .error ⟨index⟩

end Query

end SearchTemplate
