import SearchTemplate.Text.Symbol

/-!
# Placeholders

A placeholder is written `{search<options>\<delimiter>}`. A `Placeholder` is one occurrence in a
URL, with the literal text before it and its number in the URL. `Placeholder.Fault` lists what
can be wrong with one, and `Placeholder.Error.message` is the report of it.
-/

namespace SearchTemplate

structure Placeholder where
  /-- The literal text since the previous placeholder. -/
  before : Text
  options : Text
  delimiter : Text
  /-- The number of this placeholder in its URL, from one. -/
  occurrence : Int
  /-- The placeholder as it is written in the URL. -/
  source : Text
  deriving DecidableEq, Repr

namespace Placeholder

inductive Fault where
  /-- The first placeholder has nothing before it. -/
  | opensUrl
  | missingDelimiter
  | delimiterTooLong (delimiter : Text) (limit : Nat)
  | spaceDelimiter
  | tooMany (limit : Nat)
  | invalidOptions
  | queryOutOfRange (position limit : Nat)
  | missingWordPosition
  deriving DecidableEq, Repr

structure Error where
  fault : Fault
  url : Text
  /-- The placeholder as it is written. -/
  source : Text
  deriving DecidableEq, Repr

/-- The name of a fault in the log. -/
def Fault.name : Fault → String
  | opensUrl => "PlaceholderPositionError"
  | missingDelimiter => "MissingDelimiterError"
  | delimiterTooLong _ _ => "DelimiterTooLongError"
  | spaceDelimiter => "InvalidDelimiterError"
  | tooMany _ => "PlaceholderCountError"
  | invalidOptions => "InvalidOptionsError"
  | queryOutOfRange _ _ => "QueryPositionRangeError"
  | missingWordPosition => "MissingWordPositionError"

/-- The description of a fault in the placeholder `source`. -/
def Fault.detail (source : Text) : Fault → Text
  | opensUrl =>
    .ofString "\x7bsearch\\D\x7d\n  placeholder cannot be at the very\n  beginning of a URL;"
  | missingDelimiter =>
    .ofString "delimiter D\n  missing for \x7bsearch\\D\x7d placeholder;"
  | delimiterTooLong delimiter limit =>
    .ofString "delimiter D\n  for \x7bsearch\\D\x7d placeholder too long;\n  Length: "
      ++ .ofNat delimiter.length ++ .ofString " (maximum " ++ .ofNat limit
      ++ .ofString ")\n  Delimiter: \"" ++ delimiter ++ .ofString "\""
  | spaceDelimiter =>
    .ofString
      "delimiter D\n  for \x7bsearch\\D\x7d placeholder cannot\n  be a space; Delimiter: \" \""
  | tooMany limit =>
    .ofString "cannot use\n  more than " ++ .ofNat limit
      ++ .ofString " \x7bsearch\\D\x7d\n  placeholders;"
  | invalidOptions =>
    .ofString "one or more\n  invalid options in placeholder\n  " ++ source ++ .ofString ";"
  | queryOutOfRange position limit =>
    .ofString "search query\n  position " ++ .ofNat position ++ .ofString " in placeholder\n  "
      ++ source ++ .ofString "\n  out of range; valid range is 1-" ++ .ofNat limit
      ++ .ofString ";"
  | missingWordPosition =>
    .ofString "position P\n  missing for option \"!W[P]\" in\n  placeholder " ++ source
      ++ .ofString ";"

def Error.message (e : Error) : Text :=
  .ofString "error: " ++ e.fault.detail e.source ++ .ofString "\n  URL:\n  " ++ e.url

end Placeholder

end SearchTemplate
