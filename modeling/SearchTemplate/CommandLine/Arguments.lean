import SearchTemplate.Text.Symbol

/-!
# Arguments of the command

Options stand before the first other argument: `--config` with a path, the last of which counts,
and `--verbose`. What only looks like an option is an argument for the engine, but options may
still follow it. Two dashes end the options.
-/

namespace SearchTemplate.CommandLine

/-- What a command line asks for. -/
structure Invocation where
  config : Option Text := none
  verbose : Bool := false
  /-- The arguments for the engine. -/
  arguments : List Text := []
  deriving DecidableEq, Repr

def configOption : Text := .ofString "--config"

def verboseOption : Text := .ofString "--verbose"

def endOfOptions : Text := .ofString "--"

def equals : Symbol := .char '='

/-- The value of an option that is written in one argument with it. -/
def valueOf? (option argument : Text) : Option Text :=
  let start := option ++ [equals]
  if start.isPrefixOf argument then some (argument.drop start.length) else none

/-- An argument that looks like an option: a dash and more. -/
def looksLikeOption : Text → Bool
  | .char '-' :: _ :: _ => true
  | _ => false

/-- Reads arguments after those in `i`. There is no result if an option lacks its value or has
one that it does not take. -/
def parseFrom (i : Invocation) : List Text → Option Invocation
  | [] => some i
  | argument :: rest =>
    if argument = endOfOptions then some { i with arguments := i.arguments ++ rest }
    else if argument = verboseOption then parseFrom { i with verbose := true } rest
    else if (valueOf? verboseOption argument).isSome then none
    else if argument = configOption then
      match rest with
      | [] => none
      | value :: rest => parseFrom { i with config := some value } rest
    else
      match valueOf? configOption argument with
      | some value => parseFrom { i with config := some value } rest
      | none =>
        if looksLikeOption argument then
          parseFrom { i with arguments := i.arguments ++ [argument] } rest
        else some { i with arguments := i.arguments ++ argument :: rest }

def parse (arguments : List Text) : Option Invocation := parseFrom {} arguments

end SearchTemplate.CommandLine
