/-!
# What can be wrong with a document

A document may not follow the grammar, or a scalar in it may look like a value and be none, or a
mapping may stand for the text of a value that leads back to it.
-/

namespace SearchTemplate.Yaml

inductive Fault where
  /-- Against the grammar, or a node that its tag does not allow. -/
  | malformed
  /-- An escape names a code that no symbol has. -/
  | codeOutOfRange (code : Nat)
  /-- The text of a number cannot be read. -/
  | notANumber
  /-- A number without any text. -/
  | emptyNumber
  /-- A number with too many places to be rounded. -/
  | numberTooLarge
  | noSuchMoment
  | notAMoment
  | notATruthValue
  /-- A mapping whose text is that of its value, and so on without an end. -/
  | endlessText
  deriving DecidableEq, Repr

end SearchTemplate.Yaml
