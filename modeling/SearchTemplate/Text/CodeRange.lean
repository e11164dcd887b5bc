import SearchTemplate.Text.Symbol

/-!
# Ranges of codes

`⟨lo, hi⟩` is the set of codes from `lo` to `hi`, both included. A set of symbols is written as
a list of such ranges, which may overlap.
-/

namespace SearchTemplate

structure CodeRange where
  lo : Nat
  hi : Nat
  deriving DecidableEq, Repr

namespace CodeRange

def contains (r : CodeRange) (n : Nat) : Bool := r.lo.ble n && n.ble r.hi

theorem contains_iff {r : CodeRange} {n : Nat} : r.contains n = true ↔ r.lo ≤ n ∧ n ≤ r.hi := by
  simp [contains]

end CodeRange

end SearchTemplate
