import SearchTemplate.Text.CodeRange

/-!
# Unsafe sets

An unsafe set says which symbols may not stand in a text as they are. It lists codes of
symbols; every symbol above Latin-1 is unsafe whether it is listed or not.
-/

namespace SearchTemplate

structure UnsafeSet where
  ranges : List CodeRange
  deriving DecidableEq, Repr

/-- A range asks for a code that no symbol can have; `code` is the first one. -/
structure CodeOutOfRange where
  code : Nat
  deriving DecidableEq, Repr

namespace UnsafeSet

def maxLatin1 : Nat := 0xFF

def maxCode : Nat := 0x10FFFF

def lists (u : UnsafeSet) (s : Symbol) : Bool := u.ranges.any (·.contains s.code)

/-- The symbol has to be written in percent form. -/
def covers (u : UnsafeSet) (s : Symbol) : Bool := u.lists s || decide (maxLatin1 < s.code)

/-- The listed codes, ascending, each once. -/
def codes (u : UnsafeSet) : List Nat :=
  (u.ranges.mergeSort fun a b => a.lo ≤ b.lo).foldl (fun found r => extend found r) (0, [])
    |>.2.reverse
where
  /-- Appends the codes of a range from the first one not yet passed. -/
  extend (found : Nat × List Nat) (r : CodeRange) : Nat × List Nat :=
    let first := max found.1 r.lo
    let new := List.range' first (r.hi + 1 - first)
    (max first (r.hi + 1), new.reverse ++ found.2)

/-- The set with the codes of the ranges. -/
def ofRanges : List CodeRange → Except CodeOutOfRange UnsafeSet
  | ranges =>
    match ranges.find? fun r => maxCode < r.hi with
    | some r => .error ⟨max r.lo (maxCode + 1)⟩
    | none => .ok ⟨ranges⟩

end UnsafeSet

end SearchTemplate
