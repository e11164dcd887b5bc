import SearchTemplate.CommandLine.Run

/-!
# The command

Reads the files that the command line and the environment name, and writes the reply.
-/

namespace SearchTemplate.Main

/-- The number by which the system says that a path names a directory. -/
def directoryCode : UInt32 := 21

/-- The number by which the system says that an argument, such as a name, is not possible. -/
def invalidCode : UInt32 := 22

/-- The number by which the system says that a name is too long. -/
def nameTooLongCode : UInt32 := 36

def lookupError : IO.Error → Lookup
  | .noFileOrDirectory _ _ _ => .missing
  | .inappropriateType _ code _ => if code = directoryCode then .directory else .notADirectory
  | .invalidArgument _ code _ =>
    if code = nameTooLongCode then .nameTooLong
    else if code = invalidCode then .invalidName
    else .inaccessible
  | _ => .inaccessible

/-- What the system finds at a path. A name with stray bytes cannot be asked for. -/
def lookup (path : Path) : IO Lookup := do
  match path.toText.toString? with
  | none => return .inaccessible
  | some name =>
    try
      let content ← IO.FS.readBinFile name
      return .file content.toList
    catch e => return lookupError e

/-- The paths that a configuration may be loaded from. -/
def configPaths (e : Environment) (arguments : List Text) : List Path :=
  let named := (CommandLine.parse arguments).bind fun i => i.config.map Path.ofText
  let fromVariable := (Config.resolvePath e none).toOption.join
  named.toList ++ fromVariable.toList

def environment (arguments : List Text) : IO Environment := do
  let configVariable := (← IO.getEnv "SEARCHURL_CONFIG").map Text.ofString
  let directory := (← IO.getEnv "HOME").map Text.ofString
  let e : Environment :=
    { disk := fun _ => .missing
      configVariable
      home := fun user => if user.isEmpty then directory else none }
  let found ← (configPaths e arguments).mapM fun path => return (path, ← lookup path)
  return { e with disk := fun path => (found.lookup path).getD .missing }

def write (output : IO.FS.Stream) (t : Text) : IO Unit := do
  output.write ⟨t.bytes.toArray⟩
  output.flush

end SearchTemplate.Main

open SearchTemplate in
def main (arguments : List String) : IO UInt32 := do
  let arguments := arguments.map Text.ofString
  let e ← Main.environment arguments
  match CommandLine.run e arguments with
  | .ok reply =>
    Main.write (← IO.getStderr) (reply.log.getD (.ofString "error: invalid options\n"))
    Main.write (← IO.getStdout) reply.output
    return UInt32.ofNat reply.exitCode
  | .error _ =>
    Main.write (← IO.getStderr) (.ofString "error: the configuration cannot be used\n")
    return 1
