import SearchTemplate.Engine.Outcome
import SearchTemplate.Entry.Split
import SearchTemplate.Placeholder.Rules
import SearchTemplate.Placeholder.Scan
import SearchTemplate.Query.Render
import SearchTemplate.Query.Transform

/-!
# Rendering an entry

The literal text of the URL is escaped, each placeholder is replaced by its query, and the data
suffix follows unchanged. The first placeholder that breaks a rule ends the rendering.
-/

namespace SearchTemplate.Entry

/-- The options of a placeholder, after a report if it breaks a rule. -/
def readPlaceholder (c : Config) (url : Text) (p : Placeholder) : Outcome Options :=
  match p.read c with
  | .ok options => pure options
  | .error fault => do
    let error : Placeholder.Error := ⟨fault, url, p.source⟩
    Outcome.log (.rejected error)
    Outcome.fail (.placeholder error)

def escapeLiteral (c : Config) (t : Text) : Outcome Text := do
  let unsafeSet ← Outcome.ofExcept .codeOutOfRange c.urlUnsafe
  return Percent.escape unsafeSet t

/-- The query in place of a placeholder; a query that does not exist gives nothing. -/
def renderQuery (c : Config) (p : Placeholder) (o : Options) : Option Text → Outcome Text
  | none => do
    Outcome.log (.queryMissing p.source)
    return []
  | some q => do
    let unsafeSet ← Outcome.ofExcept .codeOutOfRange c.queryUnsafe
    return Query.render unsafeSet p.delimiter (Query.transform o q)

/-- A placeholder with the literal text before it. -/
def renderPlaceholder (c : Config) (queries : List Text) (url : Text) (p : Placeholder) :
    Outcome Text := do
  let options ← readPlaceholder c url p
  let before ← escapeLiteral c p.before
  let index := Query.index p options
  let query ← Outcome.ofExcept .indexOutOfRange (Query.select queries index)
  Outcome.log (.placeholder p.occurrence p.options p.delimiter index)
  let rendered ← renderQuery c p options query
  return before ++ rendered

def renderPlaceholders (c : Config) (queries : List Text) (url : Text) :
    List Placeholder → Outcome Text
  | [] => pure []
  | p :: rest => do
    let first ← renderPlaceholder c queries url p
    let others ← renderPlaceholders c queries url rest
    return first ++ others

/-- The literal text after the last placeholder. -/
def renderTrailing (c : Config) : Text → Outcome Text
  | [] => pure []
  | t => escapeLiteral c t

def render (c : Config) (queries : List Text) (e : Entry) : Outcome Text := do
  let scan := Scan.ofUrl e.url
  Outcome.log (.entry e.url scan.placeholders.length)
  let placeholders ← renderPlaceholders c queries e.url scan.placeholders
  let trailing ← renderTrailing c scan.trailing
  return placeholders ++ trailing ++ e.data.getD []

end SearchTemplate.Entry
