import SearchTemplate.File.Path
import SearchTemplate.Text.Bytes

/-!
# Looking up files

`FileTree.lookup` says what a path leads to in a tree of files. Directories exist as far as files
need them, and so do those around the tree, about which nothing else is known.
-/

namespace SearchTemplate

/-- What a path leads to. -/
inductive Lookup where
  | file (content : List UInt8)
  | directory
  | missing
  /-- A file stands where the path needs a directory. -/
  | notADirectory
  | nameTooLong
  /-- No file can have a name like this. -/
  | invalidName
  /-- What stands there cannot be read. -/
  | inaccessible
  deriving DecidableEq, Repr

structure FileTree where
  /-- The files by their names from the top of the tree. -/
  files : List (List Text × List UInt8)

namespace FileTree

/-- What stands at a place in the tree. -/
def stands (t : FileTree) (names : List Text) : Lookup :=
  match t.files.lookup names with
  | some content => .file content
  | none =>
    if names = [] ∨ t.files.any (fun f => names.isPrefixOf f.1) then .directory else .missing

/-- The most bytes that a name may have. -/
def maxNameLength : Nat := 255

/-- Follows names from a place in the tree, or from `above` directories over its top. -/
def walk (t : FileTree) : Nat → List Text → List Text → Lookup
  | above, place, [] => if above = 0 then t.stands place else .directory
  | above, place, name :: rest =>
    match if above = 0 then t.stands place else .directory with
    | .directory =>
      if name = Path.parent then
        if place = [] then walk t (above + 1) [] rest else walk t above place.dropLast rest
      else if maxNameLength < (Text.bytes name).length then .nameTooLong
      else if above = 0 then walk t 0 (place ++ [name]) rest
      else .missing
    | .file _ => .notADirectory
    | other => other

/-- The top of the tree is where relative paths start. From a root only directories can be
reached that lie around the tree. -/
def lookup (t : FileTree) (p : Path) : Lookup :=
  if p.names.any fun name => name.contains (.char '\x00') then .invalidName
  else if p.root = [] then t.walk 0 [] p.names
  else t.walk 1 [] p.names

end FileTree

end SearchTemplate
