import SearchTemplate.Placeholder.Options

/-!
# Writing directives

`Directive.write` is the written form of a directive, and an option string is the written forms of
its directives one after the other. `Options.directives` is a row of directives that sets the
options.
-/

namespace SearchTemplate

namespace Directive

/-- A number, or nothing for none. -/
def writeNumber : Option Nat → Text
  | none => []
  | some n => .ofNat n

/-- What follows the mark of a directive. -/
def body : Directive → Text
  | query position => .ofNat position
  | word position => .char 'W' :: writeNumber position
  | upper position => .char 'U' :: writeNumber position
  | capitalize => [.char 'C']
  | reverse => [.char 'R']
  | stripCommas => [.char 'M']

def write (d : Directive) : Text := mark ++ d.body

def writeAll (ds : List Directive) : Text := ds.flatMap write

end Directive

def Uppercase.directives : Uppercase → List Directive
  | allWords => [.upper none]
  | positions indexes => indexes.map fun i => .upper (some (i + 1).toNat)

/-- A directive for each thing that is set; it counts words from one. -/
def Options.directives (o : Options) : List Directive :=
  (o.queryPosition.map fun n => Directive.query n.toNat).toList ++
    o.wordPositions.map (fun i => .word (some (i + 1).toNat)) ++
    o.uppercase.directives ++
    (if o.capitalize then [.capitalize] else []) ++
    (if o.reverse then [.reverse] else []) ++
    (if o.stripCommas then [.stripCommas] else [])

end SearchTemplate
