import SearchTemplate.Text.Sections

/-!
# Text for the terminal

Output is written without control sequences: an escape character, a bracket, parameters and a
letter.
-/

namespace SearchTemplate.CommandLine

def isParameter : Symbol → Bool
  | .char c => c = ';' || c = '?' || c.isDigit
  | .stray _ _ => false

def isLetter : Symbol → Bool
  | .char c => c.isAlpha
  | .stray _ _ => false

def controlSequence : Pattern Unit
  | .char '\x1b' :: .char '[' :: rest =>
    let parameters := rest.takeWhile isParameter
    match rest.drop parameters.length with
    | s :: _ => if isLetter s then some ((), parameters.length + 3) else none
    | [] => none
  | _ => none

def stripControls (t : Text) : Text := (Sections.scan controlSequence t).pieces.flatten

end SearchTemplate.CommandLine
