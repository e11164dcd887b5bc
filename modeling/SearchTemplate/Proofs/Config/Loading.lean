import SearchTemplate.CommandLine.Run
import SearchTemplate.Proofs.Yaml.Value

/-!
# When loading is answered

Loading a configuration is documented to end in a configuration or in a `Config.Problem`. It does
so exactly where none of the endings in `Config.Uncaught` occurs (`Config.load_documented_iff`): a
home directory that is not known, something that is no file, bytes that are no text, and a value of
YAML that cannot be made. The command reports the documented problems as text and stops without a
reply at the others.
-/

namespace SearchTemplate.Config

variable {e : Environment} {path : Option Path} {failure : LoadFailure}

/-- A configuration, or a problem that the user can mend. -/
def Documented (r : Except LoadFailure Config) : Prop :=
  (∃ c, r = .ok c) ∨ ∃ path problem, r = .error (.problem path problem)

/-- The path of a file to load is the one that is given, or else that of the variable. -/
inductive Loads (e : Environment) : Option Path → Path → Prop
  | given (p : Path) : Loads e (some p) p
  | fromVariable {p : Path} (set : (e.configVariable.getD []).trim ≠ [])
      (home : (Path.ofText (e.configVariable.getD []).trim).expandHome e.home = some p) :
      Loads e none p

@[simp]
theorem documented_error_iff :
    Documented (.error failure) ↔ ∃ p problem, failure = .problem p problem := by
  simp [Documented]

/-- Nothing that could be read as a file. -/
def IsBlocked : Lookup → Prop
  | .file _ => False
  | .missing => False
  | _ => True

/-- The endings that are not documented. -/
inductive Uncaught (e : Environment) (path : Option Path) : LoadFailure → Prop
  | unknownHome (noPath : path = none)
      (home : (Path.ofText (e.configVariable.getD []).trim).expandHome e.home = none) :
      Uncaught e path .unknownHome
  | unreadable {p : Path} (loads : Loads e path p) (blocked : IsBlocked (e.disk p)) :
      Uncaught e path (.unreadable (e.disk p))
  | notUtf8 {p : Path} {content : List UInt8} (loads : Loads e path p)
      (file : e.disk p = .file content) (bytes : Text.ofUtf8? content = none) :
      Uncaught e path .notUtf8
  | noValue {p : Path} {content : List UInt8} {text : Text} {fault : Yaml.Fault}
      (loads : Loads e path p) (file : e.disk p = .file content)
      (bytes : Text.ofUtf8? content = some text) (read : Yaml.read text = .error fault)
      (wellFormed : fault ≠ .malformed) : Uncaught e path (.noValue fault)

/-! ## The path -/

theorem resolvePath_eq_ok_iff {p : Path} : resolvePath e path = .ok (some p) ↔ Loads e path p := by
  constructor
  · intro h
    cases path with
    | some q =>
      cases h
      exact .given p
    | none =>
      rw [resolvePath] at h
      split at h
      · cases h
      · rename_i hset
        split at h
        · rename_i hhome
          cases h
          exact .fromVariable hset hhome
        · cases h
  · rintro (_ | ⟨hset, hhome⟩)
    · rfl
    · simp only [resolvePath, hhome]

theorem resolvePath_eq_error_iff : resolvePath e path = .error failure ↔
    failure = .unknownHome ∧ path = none ∧
      (Path.ofText (e.configVariable.getD []).trim).expandHome e.home = none := by
  cases path with
  | some q => simp [resolvePath]
  | none =>
    rw [resolvePath]
    split
    · rename_i hempty
      have hhome : (Path.ofText []).expandHome e.home = some ⟨[], []⟩ := rfl
      simp [hempty, hhome]
    · split
      · rename_i hhome
        simp [hhome]
      · rename_i hhome
        simp [hhome, eq_comm]

/-! ## The file -/

theorem load_of_loads {p : Path} (h : Loads e path p) : load e path = ofLookup p (e.disk p) := by
  rw [load, resolvePath_eq_ok_iff.mpr h]
  rfl

theorem documented_ofValue (value : Option Datum) (p : Path) :
    Documented ((ofValue value).mapError (.problem p)) := by
  cases ofValue value with
  | ok c => exact .inl ⟨c, rfl⟩
  | error problem => exact .inr ⟨p, problem, rfl⟩

theorem ofText_eq_error_iff {p : Path} {text : Text} (hf : ¬ Documented (.error failure)) :
    ofText p text = .error failure ↔
      ∃ fault, Yaml.read text = .error fault ∧ fault ≠ .malformed ∧ failure = .noValue fault := by
  rw [ofText]
  cases hread : Yaml.read text with
  | ok value =>
    have hvalue := documented_ofValue value p
    have hne : (ofValue value).mapError (.problem p) ≠ .error failure :=
      fun heq => hf (heq ▸ hvalue)
    simp [hne]
  | error fault =>
    have hne : ¬ LoadFailure.problem p .invalidYaml = failure := by
      rintro rfl
      exact hf (.inr ⟨p, .invalidYaml, rfl⟩)
    cases fault with
    | malformed => simp [hne]
    | _ => simp [eq_comm]

/-- The endings of what a path leads to, apart from documented problems. -/
theorem ofLookup_eq_error_iff {p : Path} {lookup : Lookup} (hf : ¬ Documented (.error failure)) :
    ofLookup p lookup = .error failure ↔
      (IsBlocked lookup ∧ failure = .unreadable lookup) ∨
      ∃ content, lookup = .file content ∧ (Text.ofUtf8? content = none ∧ failure = .notUtf8 ∨
        ∃ text fault, Text.ofUtf8? content = some text ∧ Yaml.read text = .error fault ∧
          fault ≠ .malformed ∧ failure = .noValue fault) := by
  cases lookup with
  | file content =>
    rw [ofLookup]
    cases hbytes : Text.ofUtf8? content with
    | none => simp [IsBlocked, hbytes, eq_comm]
    | some text => simp [IsBlocked, hbytes, ofText_eq_error_iff hf]
  | missing =>
    have hne : ¬ LoadFailure.problem p .notFound = failure := by
      rintro rfl
      exact hf (.inr ⟨p, .notFound, rfl⟩)
    simp [ofLookup, IsBlocked, hne]
  | _ => simp [ofLookup, IsBlocked, eq_comm]

theorem uncaught_iff : Uncaught e path failure ↔
    load e path = .error failure ∧ ¬ Documented (load e path) := by
  rw [and_congr_right fun h => by rw [h]]
  constructor
  · rintro (⟨hnone, hhome⟩ | ⟨hloads, hblocked⟩ | ⟨hloads, hfile, hbytes⟩ |
      ⟨hloads, hfile, hbytes, hread, hfault⟩)
    · have hresolve : resolvePath e path = .error .unknownHome :=
        resolvePath_eq_error_iff.mpr ⟨rfl, hnone, hhome⟩
      rw [load, hresolve]
      exact ⟨rfl, by simp⟩
    · rw [load_of_loads hloads, ofLookup_eq_error_iff (by simp)]
      exact ⟨.inl ⟨hblocked, rfl⟩, by simp⟩
    · rw [load_of_loads hloads, ofLookup_eq_error_iff (by simp)]
      exact ⟨.inr ⟨_, hfile, .inl ⟨hbytes, rfl⟩⟩, by simp⟩
    · rw [load_of_loads hloads, ofLookup_eq_error_iff (by simp)]
      exact ⟨.inr ⟨_, hfile, .inr ⟨_, _, hbytes, hread, hfault, rfl⟩⟩, by simp⟩
  · rintro ⟨hload, hproblem⟩
    cases hresolve : resolvePath e path with
    | error failure' =>
      rw [load, hresolve] at hload
      cases hload
      obtain ⟨rfl, hnone, hhome⟩ := resolvePath_eq_error_iff.mp hresolve
      exact .unknownHome hnone hhome
    | ok target =>
      cases target with
      | none =>
        rw [load, hresolve] at hload
        cases hload
      | some p =>
        have hloads := resolvePath_eq_ok_iff.mp hresolve
        rw [load_of_loads hloads, ofLookup_eq_error_iff hproblem] at hload
        rcases hload with ⟨hblocked, rfl⟩ | ⟨content, hfile, ⟨hbytes, rfl⟩ |
          ⟨text, fault, hbytes, hread, hfault, rfl⟩⟩
        · exact .unreadable hloads hblocked
        · exact .notUtf8 hloads hfile hbytes
        · exact .noValue hloads hfile hbytes hread hfault

theorem documented_iff : Documented (load e path) ↔ ∀ failure, ¬ Uncaught e path failure := by
  simp only [uncaught_iff]
  cases hload : load e path with
  | ok c => simp [Documented]
  | error failure => simp

/-! ## The command -/

open CommandLine

/-- The command gets as far as to load a configuration. -/
structure Starts (e : Environment) (arguments : List Text) (i : Invocation) : Prop where
  parse : parse arguments = some i
  noDirectory : namesDirectory e (i.config.map Path.ofText) = false

variable {arguments : List Text} {i : Invocation}

theorem run_of_starts (h : Starts e arguments i) :
    run e arguments = runEngine i (load e (i.config.map Path.ofText)) := by
  rw [run, h.parse]
  simp [h.noDirectory]

theorem replyTo_ne_config (log : Text) (result : Except SearchTemplate.Failure (Option Text)) :
    replyTo log result ≠ .error (.config failure) := by
  unfold replyTo
  split
  · nofun
  · nofun
  · split <;> nofun

theorem runEngine_eq_config_iff {r : Except LoadFailure Config} :
    runEngine i r = .error (.config failure) ↔ r = .error failure ∧ ¬ Documented r := by
  rcases r with failure' | c
  · cases failure' with
    | problem p problem => simp [runEngine, Documented]
    | _ => simp [runEngine, Documented]
  · simp [runEngine, replyTo_ne_config]

/-- The command stops without a reply at the endings that are not documented. -/
theorem run_eq_config_iff : run e arguments = .error (.config failure) ↔
    ∃ i, Starts e arguments i ∧ Uncaught e (i.config.map Path.ofText) failure := by
  constructor
  · intro h
    cases hparse : parse arguments with
    | none =>
      rw [run, hparse] at h
      cases h
    | some i =>
      cases hdirectory : namesDirectory e (i.config.map Path.ofText) with
      | true =>
        simp [run, hparse, hdirectory] at h
      | false =>
        have hstarts : Starts e arguments i := ⟨hparse, hdirectory⟩
        rw [run_of_starts hstarts, runEngine_eq_config_iff] at h
        exact ⟨i, hstarts, uncaught_iff.mpr h⟩
  · rintro ⟨i, hstarts, huncaught⟩
    rw [run_of_starts hstarts, runEngine_eq_config_iff]
    exact uncaught_iff.mp huncaught

/-- **When loading is answered.** It ends as documented exactly if none of the other endings occurs.
A value of YAML that cannot be made has its reason in the text: an escape, the number of a version,
a scalar, or a mapping that stands for a text without an end. The command reports a documented
problem as text and stops at the other endings. -/
theorem load_documented_iff (e : Environment) :
    (∀ path, Documented (load e path) ↔ ∀ failure, ¬ Uncaught e path failure) ∧
    (∀ text fault, Yaml.read text = .error fault → fault ≠ .malformed →
      Yaml.HasFault text fault) ∧
    ∀ arguments,
      (∀ failure, run e arguments = .error (.config failure) ↔
        ∃ i, Starts e arguments i ∧ Uncaught e (i.config.map Path.ofText) failure) ∧
      ∀ i path problem, Starts e arguments i →
        load e (i.config.map Path.ofText) = .error (.problem path problem) →
        run e arguments =
          .ok ⟨1, echo (.ofString "error_: " ++ problem.message path), some []⟩ := by
  refine ⟨fun path => documented_iff, fun text fault h _ => Yaml.hasFault_of_read h,
    fun arguments => ⟨fun failure => run_eq_config_iff, fun i path problem hstarts hload => ?_⟩⟩
  rw [run_of_starts hstarts, hload]
  rfl

/-- One file, whose only byte is not UTF-8. -/
def strayByte : Environment where
  disk := FileTree.lookup ⟨[([.ofString "c.yaml"], [0xFF])]⟩
  configVariable := none
  home := fun _ => none

/-- With a month that no year has, and with a file that does not exist. -/
theorem load_documented_iff_strayByte :
    (Yaml.read (.ofString "a: 2001-13-45") = .error .noSuchMoment ∧
      Yaml.HasFault (.ofString "a: 2001-13-45") .noSuchMoment) ∧
    Starts strayByte [configOption, .ofString "d.yaml"] { config := some (.ofString "d.yaml") } ∧
    load strayByte (some (Path.ofText (.ofString "d.yaml"))) =
      .error (.problem ⟨[], [.ofString "d.yaml"]⟩ .notFound) ∧
    run strayByte [configOption, .ofString "d.yaml"] =
      .ok ⟨1, .ofString "error_: Config file not found: d.yaml\n", some []⟩ := by
  obtain ⟨-, hcauses, hcommand⟩ := load_documented_iff strayByte
  have hread : Yaml.read (.ofString "a: 2001-13-45") = .error .noSuchMoment := rfl
  have hstarts : Starts strayByte [configOption, .ofString "d.yaml"]
      { config := some (.ofString "d.yaml") } := ⟨rfl, rfl⟩
  have hload : load strayByte (some (Path.ofText (.ofString "d.yaml"))) =
      .error (.problem ⟨[], [.ofString "d.yaml"]⟩ .notFound) := rfl
  exact ⟨⟨hread, hcauses _ _ hread nofun⟩, hstarts, hload,
    (hcommand _).2 _ _ _ hstarts hload⟩

/-- Loading stops at a file that is not UTF-8, and the command with it. -/
theorem not_documented_strayByte :
    ¬ Documented (load strayByte (some (Path.ofText (.ofString "c.yaml")))) ∧
    run strayByte [configOption, .ofString "c.yaml", .ofString "a"] =
      .error (.config .notUtf8) := by
  have hload : load strayByte (some (Path.ofText (.ofString "c.yaml"))) = .error .notUtf8 := rfl
  refine ⟨?_, rfl⟩
  rw [hload, documented_error_iff]
  nofun

end SearchTemplate.Config
