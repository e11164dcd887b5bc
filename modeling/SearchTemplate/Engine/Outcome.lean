import SearchTemplate.Engine.Event
import SearchTemplate.Percent.UnsafeSet
import SearchTemplate.Query.Select

/-!
# Outcomes

An outcome is the events of a computation and its result or the failure that ended it. Later
steps add events only after a success.
-/

namespace SearchTemplate

inductive Failure where
  /-- There is not even a URL list. -/
  | noArguments
  | placeholder (error : Placeholder.Error)
  | codeOutOfRange (error : CodeOutOfRange)
  | indexOutOfRange (error : IndexOutOfRange)
  deriving DecidableEq, Repr

/-- The report of a failure that a user can mend. -/
def Failure.message? : Failure → Option Text
  | noArguments => some (.ofString "error_: invalid number of arguments: 0")
  | placeholder e => some e.message
  | codeOutOfRange _ => none
  | indexOutOfRange _ => none

structure Outcome (α : Type) where
  events : List Event
  result : Except Failure α

namespace Outcome

variable {α β : Type}

def pure (a : α) : Outcome α := ⟨[], .ok a⟩

def bind (x : Outcome α) (f : α → Outcome β) : Outcome β :=
  match x.result with
  | .error failure => ⟨x.events, .error failure⟩
  | .ok a => ⟨x.events ++ (f a).events, (f a).result⟩

instance : Monad Outcome where
  pure := pure
  bind := bind

/-- Reports an event. -/
def log (e : Event) : Outcome Unit := ⟨[e], .ok ()⟩

def fail (failure : Failure) : Outcome α := ⟨[], .error failure⟩

def ofExcept {ε : Type} (toFailure : ε → Failure) : Except ε α → Outcome α
  | .error e => fail (toFailure e)
  | .ok a => pure a

end Outcome

end SearchTemplate
