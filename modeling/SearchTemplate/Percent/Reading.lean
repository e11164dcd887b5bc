import SearchTemplate.Percent.Escape

/-!
# Reading escape marks

`Percent.readings` goes through a text symbol by symbol, without cutting it into chunks: an escape
mark is consumed and makes the next symbol a kept one. Escaping a text is writing each symbol as
its reading says.
-/

namespace SearchTemplate.Percent

/-- How a symbol is read: as any other, or kept by an escape mark before it. -/
inductive Mode where
  | normal
  | kept
  deriving DecidableEq, Repr

/-- The symbols of a text that starts in a mode, each with the mode it is read in. -/
def readings : Mode → Text → List (Mode × Symbol)
  | _, [] => []
  | mode, [s] => [(mode, s)]
  | mode, s :: t :: rest =>
    if s = .char '\\' ∧ t = .char '\\' then readings .kept rest
    else (mode, s) :: readings .normal (t :: rest)

/-- What a symbol gives: its percent form if it is unsafe and not kept. -/
def writeReading (u : UnsafeSet) (r : Mode × Symbol) : Text :=
  if r.1 = .normal ∧ u.covers r.2 then symbolForm r.2 else [r.2]

end SearchTemplate.Percent
