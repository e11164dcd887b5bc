import SearchTemplate.Text.Symbol

/-!
# Sections of a text

A pattern recognises a span at the start of a text. `Sections.scan` reads a text from left to
right and cuts it at the spans that a pattern recognises, none overlapping another: the result
is the literal text before the first span, then each span's value with the literal text after
it. Splitting, cutting out and searching are this one reading with different patterns.
-/

namespace SearchTemplate

/-- The value and the length of the span at the start of a text, if there is one. A span of
length zero counts as none. -/
abbrev Pattern (α : Type) := Text → Option (α × Nat)

structure Sections (α : Type) where
  head : Text
  tail : List (α × Text)
  deriving DecidableEq, Repr

namespace Sections

variable {α : Type}

/-- One more literal symbol in front. -/
def cons (s : Symbol) (p : Sections α) : Sections α := { p with head := s :: p.head }

/-- One more span in front. -/
def mark (a : α) (p : Sections α) : Sections α := ⟨[], (a, p.head) :: p.tail⟩

/-- The sections of a text whose first `skip` symbols belong to a span already recognised. -/
def scanFrom (m : Pattern α) : Nat → Text → Sections α
  | _, [] => ⟨[], []⟩
  | skip + 1, _ :: rest => scanFrom m skip rest
  | 0, s :: rest =>
    match m (s :: rest) with
    | some (a, n + 1) => (scanFrom m n rest).mark a
    | _ => (scanFrom m 0 rest).cons s

def scan (m : Pattern α) (t : Text) : Sections α := scanFrom m 0 t

/-- The literal texts around the spans. -/
def pieces (p : Sections α) : List Text := p.head :: p.tail.map Prod.snd

end Sections

namespace Pattern

/-- The text `d` itself. -/
def literal (d : Text) : Pattern Unit := fun t =>
  if d.isPrefixOf t then some ((), d.length) else none

/-- The rest of a text, of which `skip` symbols belong to a span, after the spans that follow
one another from there. -/
def dropFrom {α : Type} (m : Pattern α) : Nat → Text → Text
  | _, [] => []
  | skip + 1, _ :: rest => dropFrom m skip rest
  | 0, s :: rest =>
    match m (s :: rest) with
    | some (_, n + 1) => dropFrom m n rest
    | _ => s :: rest

/-- Takes off the spans that open the text, one right after the other. -/
def dropLeading {α : Type} (m : Pattern α) (t : Text) : Text := dropFrom m 0 t

end Pattern

namespace Text

/-- The pieces of `t` between the occurrences of `d`, which is not empty. -/
def splitOn (t d : Text) : List Text := (Sections.scan (Pattern.literal d) t).pieces

/-- `t` without the occurrences of `d`. -/
def erase (t d : Text) : Text := (t.splitOn d).flatten

/-- The text before and from the first occurrence of `d`; the second part is empty if there is
none. -/
def breakOn : Text → Text → Text × Text
  | [], _ => ([], [])
  | s :: rest, d =>
    if d.isPrefixOf (s :: rest) then ([], s :: rest)
    else
      let parts := breakOn rest d
      (s :: parts.1, parts.2)

/-- The pieces without the empty ones at the end. -/
def dropTrailingEmpty (pieces : List Text) : List Text :=
  (pieces.reverse.dropWhile List.isEmpty).reverse

end Text

end SearchTemplate
