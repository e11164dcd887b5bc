import SearchTemplate.Config.Validation
import SearchTemplate.File.Tree
import SearchTemplate.Yaml.Value

/-!
# Loading configurations

A configuration comes from the file with a given path, or else from the one that an environment
variable names, or else is the standard one. `Config.Problem` lists what a user can mend;
`Config.LoadFailure` has the other ways in which loading can fail too.
-/

namespace SearchTemplate

/-- What loading depends on besides the path. -/
structure Environment where
  disk : Path → Lookup
  /-- The value of the variable that names a file. -/
  configVariable : Option Text
  /-- The home directory of a user; the empty name is the present user. -/
  home : Text → Option Text

namespace Config

inductive Problem where
  | notFound
  | invalidYaml
  | notAMapping
  | invalidSchema (locations : List Location)
  deriving DecidableEq, Repr

inductive LoadFailure where
  | problem (path : Path) (problem : Problem)
  /-- The path leads to something that cannot be read. -/
  | unreadable (lookup : Lookup)
  | unknownHome
  | notUtf8
  /-- A scalar that has the form of a value and has none. -/
  | noValue (fault : Yaml.Fault)
  deriving DecidableEq, Repr

/-- The keys of a location with points between them. -/
def describeLocation (l : Location) : Text :=
  match Text.join (.ofString ".") l with
  | [] => .ofString "<root>"
  | t => t

def Problem.message (path : Path) : Problem → Text
  | notFound => .ofString "Config file not found: " ++ path.toText
  | invalidYaml => .ofString "Invalid YAML in config file: " ++ path.toText
  | notAMapping => .ofString "Config file must contain a mapping: " ++ path.toText
  | invalidSchema locations =>
    .ofString "Invalid config schema: " ++ path.toText ++ .ofString " ("
      ++ Text.join (.ofString ", ") (locations.map describeLocation) ++ .ofString ")"

/-- The configuration that a value of a file sets. Nothing set is the standard one. -/
def ofValue : Option Datum → Except Problem Config
  | none => .ok standard
  | some .null => .ok standard
  | some (.map entries) => (ofEntries entries).mapError .invalidSchema
  | some _ => .error .notAMapping

/-- The configuration in the text of the file at a path. -/
def ofText (path : Path) (text : Text) : Except LoadFailure Config :=
  match Yaml.read text with
  | .ok value => (ofValue value).mapError (.problem path)
  | .error .malformed => .error (.problem path .invalidYaml)
  | .error fault => .error (.noValue fault)

/-- The configuration in what a path leads to. -/
def ofLookup (path : Path) : Lookup → Except LoadFailure Config
  | .file content =>
    match Text.ofUtf8? content with
    | some text => ofText path text
    | none => .error .notUtf8
  | .missing => .error (.problem path .notFound)
  | other => .error (.unreadable other)

/-- The path to load, `none` for the standard configuration. -/
def resolvePath (e : Environment) : Option Path → Except LoadFailure (Option Path)
  | some path => .ok (some path)
  | none =>
    match (e.configVariable.getD []).trim with
    | [] => .ok none
    | t =>
      match (Path.ofText t).expandHome e.home with
      | some path => .ok (some path)
      | none => .error .unknownHome

def load (e : Environment) (path : Option Path) : Except LoadFailure Config := do
  match ← resolvePath e path with
  | none => return standard
  | some path => ofLookup path (e.disk path)

end Config

end SearchTemplate
