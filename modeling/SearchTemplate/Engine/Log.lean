import SearchTemplate.Engine.Event
import SearchTemplate.Json.Printer

/-!
# The log

An event is logged as one line: the canonical text of a JSON object with the event's name and its
fields. A logger with a threshold takes the lines at its level or above. Logging fails where the
object cannot be written (`Json.WriteFault`), which depends on the room that the stack leaves.

The events of the engine are flat, and their numbers are sizes and positions, so that their lines
can always be written (`Event.line`).
-/

namespace SearchTemplate

namespace Log

/-- The threshold where none is set. -/
def defaultThreshold : Int := 30

/-- Levels up to zero are never logged; threshold zero means that none is set. -/
def accepts (threshold level : Int) : Bool :=
  0 < level && (if threshold = 0 then defaultThreshold else threshold) ≤ level

def eventKey : Text := .ofString "event"

/-- The object that is logged for an event. -/
def payload (event : Text) (fields : List (Text × Json)) : Json :=
  .obj ((eventKey, .str event) :: fields)

def line (event : Text) (fields : List (Text × Json)) : Text := (payload event fields).canonical

/-- The lines that a logger writes for an event. -/
def write (room : Nat) (threshold level : Int) (event : Text) (fields : List (Text × Json)) :
    Except Json.WriteFault (List Text) :=
  if accepts threshold level then
    ((payload event fields).sorted.write room).map fun line => [line]
  else .ok []

end Log

namespace Event

def name : Event → String
  | emptyUrlList => "empty_url_list"
  | start _ _ => "start"
  | entry _ _ => "entry"
  | rejected _ => "rejected"
  | placeholder _ _ _ _ => "placeholder"
  | queryMissing _ => "query_missing"

def fields : Event → List (String × Json)
  | emptyUrlList => []
  | start entries queries => [("entries", .int entries), ("queries", .int queries)]
  | entry url placeholders => [("url", .str url), ("placeholders", .int placeholders)]
  | rejected e =>
    [("url", .str e.url), ("placeholder", .str e.source),
      ("error_type", Json.string e.fault.name)]
  | placeholder occurrence options delimiter queryIndex =>
    [("occurrence", .int occurrence), ("options", .str options), ("delimiter", .str delimiter),
      ("query_index", .int queryIndex)]
  | queryMissing source => [("placeholder", .str source)]

def line (e : Event) : Text :=
  Log.line (.ofString e.name) (e.fields.map fun f => (Text.ofString f.1, f.2))

end Event

end SearchTemplate
