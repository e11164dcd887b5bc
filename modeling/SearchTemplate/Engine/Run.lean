import SearchTemplate.Entry.Render

/-!
# Runs of the engine

The first argument is a URL list, the others are query fragments. Every entry is rendered with
the same queries, and the results are joined again by the entry delimiter. An empty URL list
has no result.
-/

namespace SearchTemplate.Engine

def renderEntries (c : Config) (queries : List Text) : List Entry → Outcome (List Text)
  | [] => pure []
  | e :: rest => do
    let first ← e.render c queries
    let others ← renderEntries c queries rest
    return first :: others

def substitute (c : Config) (raw : Text) (fragments : List Text) : Outcome (Option Text) :=
  match Entry.split c raw with
  | [] => do
    Outcome.log .emptyUrlList
    return none
  | entries => do
    let queries := Query.split c fragments
    Outcome.log (.start entries.length queries.length)
    let rendered ← renderEntries c queries entries
    return some (Text.join c.entryDelimiter.text rendered)

def run (c : Config) : List Text → Outcome (Option Text)
  | [] => Outcome.fail .noArguments
  | raw :: fragments => substitute c raw fragments

end SearchTemplate.Engine
