import SearchTemplate.Config.Basic
import SearchTemplate.Placeholder.Basic
import SearchTemplate.Text.Digit
import SearchTemplate.Text.Sections

/-!
# Options of a placeholder

An option string is a row of directives, each written `!` and a body: `!N` names the query by
its number, `!WP` keeps the word number `P`, `!U` and `!UP` put all words or word `P` in upper
case, `!C` capitalizes, `!R` reverses the words, and `!M` drops percent forms of commas. Word
numbers count from one in writing and from zero in `Options`; number zero stands for the last
word, as the position before the first.

`Directive.readAll?` reads the grammar, `Placeholder.readOptions` also applies the limits.
-/

namespace SearchTemplate

/-- The words that are put in upper case. -/
inductive Uppercase where
  | allWords
  | positions (indexes : List Int)
  deriving DecidableEq, Repr

structure Options where
  queryPosition : Option Int := none
  wordPositions : List Int := []
  uppercase : Uppercase := .positions []
  capitalize : Bool := false
  reverse : Bool := false
  stripCommas : Bool := false
  deriving DecidableEq, Repr

inductive Directive where
  | query (position : Nat)
  | word (position : Option Nat)
  | upper (position : Option Nat)
  | capitalize
  | reverse
  | stripCommas
  deriving DecidableEq, Repr

namespace Directive

/-- The number that one or two digits write. -/
def number? : Text → Option Nat
  | [x] => x.digit?
  | [x, y] => do return (← x.digit?) * 10 + (← y.digit?)
  | _ => none

/-- The number that at most two digits write; no digit is no number. -/
def optionalNumber? : Text → Option (Option Nat)
  | [] => some none
  | t => (number? t).map some

/-- Reads what follows the mark of a directive. -/
def ofBody? : Text → Option Directive
  | .char 'W' :: digits => (optionalNumber? digits).map word
  | .char 'U' :: digits => (optionalNumber? digits).map upper
  | [.char 'C'] => some capitalize
  | [.char 'R'] => some reverse
  | [.char 'M'] => some stripCommas
  | digits => (number? digits).map query

def mark : Text := [.char '!']

/-- The directives of an option string, or `none` if it is not made of directives. -/
def readAll? (t : Text) : Option (List Directive) :=
  match t.splitOn mark with
  | [] :: bodies => bodies.mapM ofBody?
  | _ => none

/-- The fault of a directive where at most `limit` queries can be named. -/
def fault? (limit : Nat) : Directive → Option Placeholder.Fault
  | query position =>
    if 1 ≤ position ∧ position ≤ limit then none else some (.queryOutOfRange position limit)
  | word none => some .missingWordPosition
  | _ => none

end Directive

namespace Uppercase

/-- Adds the word at a position, which changes nothing once all words are meant. -/
def add (index : Int) : Uppercase → Uppercase
  | allWords => allWords
  | positions indexes => positions (indexes ++ [index])

end Uppercase

namespace Options

/-- The options with one more directive, which takes effect after the others. -/
def apply (o : Options) : Directive → Options
  | .query position => { o with queryPosition := some position }
  | .word none => o
  | .word (some position) => { o with wordPositions := o.wordPositions ++ [(position : Int) - 1] }
  | .upper none => { o with uppercase := .allWords }
  | .upper (some position) => { o with uppercase := o.uppercase.add ((position : Int) - 1) }
  | .capitalize => { o with capitalize := true }
  | .reverse => { o with reverse := true }
  | .stripCommas => { o with stripCommas := true }

/-- Reads directives in order up to the first fault. -/
def ofDirectives (limit : Nat) (o : Options) : List Directive → Except Placeholder.Fault Options
  | [] => .ok o
  | d :: rest =>
    match d.fault? limit with
    | some fault => .error fault
    | none => ofDirectives limit (o.apply d) rest

def ofText (limit : Nat) (t : Text) : Except Placeholder.Fault Options :=
  match Directive.readAll? t with
  | none => .error .invalidOptions
  | some directives => ofDirectives limit {} directives

end Options

end SearchTemplate
