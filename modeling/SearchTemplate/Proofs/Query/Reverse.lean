import SearchTemplate.Proofs.Text.Words
import SearchTemplate.Query.Transform

/-!
# Queries in opposite order

Reversing a query puts its runs in opposite order, those of blanks among them, and leaves each as it
is (`Query.transform_reverse`). A blank at an end goes to the other end and is no run by the side of
an empty word, so that the runs of the result are found again and reversing twice gives the query
back.
-/

namespace SearchTemplate

namespace Text

variable {q r : Text}

/-- The maximal runs of blanks. -/
def blankRuns (t : Text) : List Text := t.runs.filter (·.isBlank)

/-- Text `r` has the runs of `q` in opposite order. However `q` is cut into pieces of one kind in
which blanks and visible symbols take turns, `r` is these pieces from the last to the first. -/
structure Reversed (q r : Text) : Prop where
  visibleRuns : r.visibleRuns = q.visibleRuns.reverse
  blankRuns : r.blankRuns = q.blankRuns.reverse
  eq_flatten : ∀ rs, q = rs.flatten → Alternate rs → r = rs.reverse.flatten

theorem reversed_reverseRuns (q : Text) : Reversed q q.reverseRuns where
  visibleRuns := by rw [Text.visibleRuns, runs_reverseRuns, List.filter_reverse, Text.visibleRuns]
  blankRuns := by rw [Text.blankRuns, runs_reverseRuns, List.filter_reverse, Text.blankRuns]
  eq_flatten rs hflatten hrs := by
    have hruns : q.runs = rs := runs_eq_iff.mpr ⟨hflatten, hrs⟩
    rw [reverseRuns, hruns]

theorem reverseRuns_reverseRuns (q : Text) : q.reverseRuns.reverseRuns = q := by
  rw [reverseRuns, runs_reverseRuns, List.reverse_reverse, flatten_runs]

end Text

namespace Query

open Text

/-- **Reversing a query.** The words and the blanks between, before and after them come in opposite
order, each run as it was, and reversing the result gives the query. -/
theorem transform_reverse (q : Text) :
    Reversed q (transform { reverse := true } q) ∧
    transform { reverse := true } (transform { reverse := true } q) = q :=
  ⟨reversed_reverseRuns q, reverseRuns_reverseRuns q⟩

/-- The space in front goes to the end, and the wide gap stays one run. -/
example : transform { reverse := true } (.ofString " ab \u2003c") = .ofString "c \u2003ab " := by
  decide +kernel

end Query

end SearchTemplate
