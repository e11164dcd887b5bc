import SearchTemplate.Text.Sections

/-!
# Paths

A path is a list of names, relative or from a root. Single dots and empty names are left out;
double dots are kept, as what they mean depends on the directories there are.
-/

namespace SearchTemplate

structure Path where
  /-- The slashes in front: none, one, or exactly two. -/
  root : Text
  names : List Text
  deriving DecidableEq, Repr

namespace Path

def slash : Symbol := .char '/'

def rootOf (t : Text) : Text :=
  match (t.takeWhile (· == slash)).length with
  | 0 => []
  | 2 => [slash, slash]
  | _ => [slash]

def ofText (t : Text) : Path :=
  ⟨rootOf t, (t.splitOn [slash]).filter fun name => name ≠ [] ∧ name ≠ [.char '.']⟩

def toText (p : Path) : Text :=
  match p.root ++ Text.join [slash] p.names with
  | [] => [.char '.']
  | t => t

def parent : Text := [.char '.', .char '.']

/-- A relative path that starts with a tilde lies in a home directory. The result is `none` if
that is not known. -/
def expandHome (home : Text → Option Text) (p : Path) : Option Path :=
  match p.root, p.names with
  | [], (.char '~' :: user) :: names =>
    (home user).map fun directory =>
      let base := ofText directory
      { base with names := base.names ++ names }
  | _, _ => some p

end Path

end SearchTemplate
