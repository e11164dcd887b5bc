import SearchTemplate.Placeholder.Basic

/-!
# Events

What the engine reports while it works.
-/

namespace SearchTemplate

inductive Event where
  | emptyUrlList
  | start (entries queries : Nat)
  | entry (url : Text) (placeholders : Nat)
  | rejected (error : Placeholder.Error)
  | placeholder (occurrence : Int) (options delimiter : Text) (queryIndex : Int)
  | queryMissing (source : Text)
  deriving DecidableEq, Repr

end SearchTemplate
