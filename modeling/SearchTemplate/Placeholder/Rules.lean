import SearchTemplate.Placeholder.Options

/-!
# Rules for placeholders

`Placeholder.fault?` is the first rule on position, delimiter and number that a placeholder
breaks. `Placeholder.read` checks these rules and then reads the options.
-/

namespace SearchTemplate.Placeholder

/-- The first broken rule, in the order in which the rules are listed here. -/
def fault? (c : Config) (p : Placeholder) : Option Fault :=
  if p.occurrence = 1 ∧ p.before = [] then some .opensUrl
  else if p.delimiter = [] then some .missingDelimiter
  else if c.maxDelimiterLength < p.delimiter.length then
    some (.delimiterTooLong p.delimiter c.maxDelimiterLength)
  else if p.delimiter = space then some .spaceDelimiter
  else if (c.maxPlaceholders : Int) < p.occurrence then some (.tooMany c.maxPlaceholders)
  else none

def check (c : Config) (p : Placeholder) : Except Fault Unit :=
  match p.fault? c with
  | some fault => .error fault
  | none => .ok ()

def readOptions (c : Config) (p : Placeholder) : Except Fault Options :=
  Options.ofText c.maxPlaceholders p.options

/-- The options of a placeholder that keeps all rules. -/
def read (c : Config) (p : Placeholder) : Except Fault Options := do
  p.check c
  p.readOptions c

end SearchTemplate.Placeholder
