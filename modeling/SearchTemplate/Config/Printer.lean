import SearchTemplate.Config.Validation

/-!
# Writing configurations

A configuration as a JSON object with all its settings.
-/

namespace SearchTemplate.Config

def rangeToJson (r : CodeRange) : Json := .arr [.int r.lo, .int r.hi]

def toJson (c : Config) : Json :=
  .obj
    [(Key.entryDelimiter, .str c.entryDelimiter.text),
      (Key.dataDelimiter, .str c.dataDelimiter.text),
      (Key.queryDelimiter, .str c.queryDelimiter.text),
      (Key.maxPlaceholders, .int c.maxPlaceholders),
      (Key.maxDelimiterLength, .int c.maxDelimiterLength),
      (Key.unsafeRanges, .arr (c.unsafeRanges.map rangeToJson))]

end SearchTemplate.Config
