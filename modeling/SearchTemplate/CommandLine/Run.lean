import SearchTemplate.CommandLine.Arguments
import SearchTemplate.CommandLine.Terminal
import SearchTemplate.Config.Loading
import SearchTemplate.Engine.Log
import SearchTemplate.Engine.Run

/-!
# Running the command

`CommandLine.run` loads the configuration, runs the engine, and says what is written where. A
problem that the user can mend is reported as text on the output with exit code 1; a command line
that cannot be read has exit code 2. With `--verbose` the events of the run go to the log.
-/

namespace SearchTemplate.CommandLine

inductive Failure where
  | config (failure : Config.LoadFailure)
  | engine (failure : SearchTemplate.Failure)
  deriving DecidableEq, Repr

structure Reply where
  exitCode : Nat
  output : Text
  /-- The lines of the log, unless they are those of a usage message. -/
  log : Option Text
  deriving DecidableEq, Repr

def engineLogger : String := "searchurl.engine"

def commandLogger : String := "searchurl.cli"

def logLine (logger : String) (line : Text) : Text :=
  .ofString logger ++ .ofString " DEBUG " ++ line ++ .ofString "\n"

def eventLine (name : String) (fields : List (String × Json)) : Text :=
  logLine commandLogger
    (Log.line (.ofString name) (fields.map fun f => (Text.ofString f.1, f.2)))

/-- What the command itself logs about a result. -/
def resultLines : Except SearchTemplate.Failure (Option Text) → Text
  | .ok none => []
  | .ok (some t) => eventLine "done" [("length", .int t.length)]
  | .error (.placeholder e) => eventLine "failed" [("error_type", .string e.fault.name)]
  | .error _ => []

/-- A line of output. Whether a stray byte in it can be written is up to the stream that takes it;
here it is one byte of output. -/
def echo (t : Text) : Text := stripControls (t ++ .ofString "\n")

def usageError : Reply := ⟨2, [], none⟩

/-- The reply to a result of the engine. -/
def replyTo (log : Text) : Except SearchTemplate.Failure (Option Text) → Except Failure Reply
  | .ok none => .ok ⟨0, [], some log⟩
  | .ok (some t) => .ok ⟨0, echo t, some log⟩
  | .error failure =>
    match failure.message? with
    | some message => .ok ⟨1, echo message, some log⟩
    | none => .error (.engine failure)

/-- Runs the engine under a configuration that was loaded. -/
def runEngine (i : Invocation) : Except Config.LoadFailure Config → Except Failure Reply
  | .ok c =>
    let outcome := Engine.run c i.arguments
    let log :=
      if i.verbose then
        outcome.events.flatMap (fun e => logLine engineLogger e.line)
          ++ resultLines outcome.result
      else []
    replyTo log outcome.result
  | .error (.problem path problem) =>
    .ok ⟨1, echo (.ofString "error_: " ++ problem.message path), some []⟩
  | .error failure => .error (.config failure)

/-- The path of a configuration names a directory. -/
def namesDirectory (e : Environment) (path : Option Path) : Bool :=
  path.any fun p => e.disk p == .directory

def run (e : Environment) (arguments : List Text) : Except Failure Reply :=
  match parse arguments with
  | none => .ok usageError
  | some i =>
    let path := i.config.map Path.ofText
    if namesDirectory e path then .ok usageError else runEngine i (Config.load e path)

end SearchTemplate.CommandLine
