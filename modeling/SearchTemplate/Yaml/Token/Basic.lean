import SearchTemplate.Text.Symbol
import SearchTemplate.Yaml.Fault

/-!
# Tokens

The tokens of a YAML document. Indentation becomes tokens too: `blockSequenceStart`,
`blockMappingStart` and `blockEnd`. Where reading stops early, `broken` is the last token.
-/

namespace SearchTemplate.Yaml

/-- A tag as it is written: a handle, if there is one, and a suffix. -/
structure WrittenTag where
  handle : Option Text
  suffix : Text
  deriving DecidableEq, Repr

inductive Token where
  | versionDirective (major : Nat)
  | tagDirective (handle tagPrefix : Text)
  | otherDirective
  | documentStart
  | documentEnd
  | streamEnd
  | flowSequenceStart
  | flowSequenceEnd
  | flowMappingStart
  | flowMappingEnd
  | flowEntry
  | blockSequenceStart
  | blockMappingStart
  | blockEnd
  | blockEntry
  | key
  | value
  | alias (name : Text)
  | anchor (name : Text)
  | tag (written : WrittenTag)
  | scalar (text : Text) (plain : Bool)
  | broken (fault : Fault)
  deriving DecidableEq, Repr

end SearchTemplate.Yaml
