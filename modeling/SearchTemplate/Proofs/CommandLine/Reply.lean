import SearchTemplate.Proofs.Config.Loading
import SearchTemplate.Proofs.Engine.Endings
import SearchTemplate.Proofs.Text.Sections

/-!
# What the command replies

Options in front of the URL list only choose the configuration and the log, and all that follows goes
to the engine as it stands (`CommandLine.parse_options`). The reply is then what loading and the
engine have to tell (`CommandLine.Told`), on a line of its own (`CommandLine.run_told`).
-/

namespace SearchTemplate.CommandLine

/-! ## Arguments -/

/-- An option as it is given on a command line. -/
inductive Switch where
  | verbose
  | config (path : Text)
  deriving DecidableEq

namespace Switch

def write : Switch → List Text
  | verbose => [verboseOption]
  | config path => [configOption, path]

def path? : Switch → Option Text
  | verbose => none
  | config path => some path

/-- The invocation with one option more. -/
def apply (i : Invocation) : Switch → Invocation
  | verbose => { i with verbose := true }
  | config path => { i with config := some path }

end Switch

/-- The path that counts among several. -/
def lastPath (options : List Switch) : Option Text := (options.filterMap Switch.path?).getLast?

/-- The arguments of a command line. -/
def commandLine (options : List Switch) (url : Text) (further : List Text) : List Text :=
  options.flatMap Switch.write ++ url :: further

variable {options options' : List Switch} {url : Text} {further : List Text}

theorem parseFrom_write (i : Invocation) (o : Switch) (rest : List Text) :
    parseFrom i (o.write ++ rest) = parseFrom (o.apply i) rest := by
  cases o with
  | verbose =>
    rw [Switch.write, List.singleton_append, parseFrom.eq_def]
    dsimp only
    rw [if_neg (by decide), if_pos rfl, Switch.apply]
  | config path =>
    rw [Switch.write, List.cons_append, List.singleton_append, parseFrom.eq_def]
    dsimp only
    rw [if_neg (by decide), if_neg (by decide), if_neg (by decide), if_pos rfl, Switch.apply]

theorem parseFrom_options (i : Invocation) (options : List Switch) (rest : List Text) :
    parseFrom i (options.flatMap Switch.write ++ rest) =
      parseFrom (options.foldl Switch.apply i) rest := by
  induction options generalizing i with
  | nil => rfl
  | cons o options ih =>
    rw [List.flatMap_cons, List.append_assoc, parseFrom_write, ih, List.foldl_cons]

theorem foldl_apply (i : Invocation) (options : List Switch) :
    options.foldl Switch.apply i =
      { i with
        verbose := i.verbose || options.contains .verbose
        config := (lastPath options).or i.config } := by
  induction options generalizing i with
  | nil => simp [lastPath]
  | cons o options ih =>
    rw [List.foldl_cons, ih]
    cases o with
    | verbose => simp [Switch.apply, lastPath, Switch.path?]
    | config path =>
      have hlast : (lastPath (.config path :: options)) = (lastPath options).or (some path) := by
        rw [lastPath, lastPath, List.filterMap_cons]
        simp only [Switch.path?]
        rw [List.getLast?_cons]
        cases (options.filterMap Switch.path?).getLast? <;> rfl
      simp [Switch.apply, hlast]

theorem ne_of_dash {option : Text} (hurl : url.head? ≠ some (.char '-'))
    (hdash : option.head? = some (.char '-')) : url ≠ option := by
  rintro rfl
  exact hurl hdash

theorem valueOf?_of_dash {option : Text} (hurl : url.head? ≠ some (.char '-'))
    (hdash : option.head? = some (.char '-')) : valueOf? option url = none := by
  rw [valueOf?, if_neg]
  intro hprefix
  obtain ⟨value, rfl⟩ := List.isPrefixOf_iff_prefix.mp hprefix
  cases option with
  | nil => cases hdash
  | cons s option => exact hurl hdash

theorem looksLikeOption_eq_false (hurl : url.head? ≠ some (.char '-')) :
    looksLikeOption url = false := by
  fun_cases looksLikeOption url with
  | case1 s rest => exact absurd rfl hurl
  | case2 => rfl

/-- An argument that opens with no dash is the first one for the engine, and ends the options. -/
theorem parseFrom_url (i : Invocation) (hurl : url.head? ≠ some (.char '-')) (rest : List Text) :
    parseFrom i (url :: rest) = some { i with arguments := i.arguments ++ url :: rest } := by
  have hverbose : valueOf? verboseOption url = none := valueOf?_of_dash hurl rfl
  have hconfig : valueOf? configOption url = none := valueOf?_of_dash hurl rfl
  rw [parseFrom.eq_def]
  simp only
  rw [if_neg (ne_of_dash hurl rfl), if_neg (ne_of_dash hurl rfl), if_neg (by simp [hverbose]),
    if_neg (ne_of_dash hurl rfl), hconfig]
  simp [looksLikeOption_eq_false hurl]

/-- Only the last path and whether to log matter of the options, and all arguments from the URL list
on go to the engine. -/
theorem parse_options (options : List Switch) (hurl : url.head? ≠ some (.char '-'))
    (further : List Text) :
    parse (commandLine options url further) =
      some
        { config := lastPath options
          verbose := options.contains .verbose
          arguments := url :: further } := by
  rw [parse, commandLine, parseFrom_options, parseFrom_url _ hurl, foldl_apply]
  simp

/-! ## Output -/

/-- Somewhere in the text stands a control sequence for the terminal. -/
def HasControls (t : Text) : Prop :=
  ∃ parameters letter, (∀ s ∈ parameters, isParameter s = true) ∧ isLetter letter = true ∧
    .char '\x1b' :: .char '[' :: (parameters ++ [letter]) <:+: t

theorem exists_of_controlSequence {t : Text} {n : Nat} (h : controlSequence t = some ((), n)) :
    ∃ parameters letter rest, (∀ s ∈ parameters, isParameter s = true) ∧
      isLetter letter = true ∧
      t = .char '\x1b' :: .char '[' :: (parameters ++ letter :: rest) := by
  rw [controlSequence.eq_def] at h
  split at h
  · rename_i rest
    simp only at h
    split at h
    · rename_i letter after hafter
      split at h
      · rename_i hletter
        have hrest : rest = rest.takeWhile isParameter ++ letter :: after := by
          conv_lhs => rw [← List.take_append_drop (rest.takeWhile isParameter).length rest]
          rw [← List.prefix_iff_eq_take.mp (List.takeWhile_prefix _), hafter]
        exact ⟨rest.takeWhile isParameter, letter, after, fun s hs => List.mem_takeWhile_imp hs,
          hletter, by rw [← hrest]⟩
      · cases h
    · cases h
  · cases h

/-- The end of the line does not complete a control sequence. -/
theorem skips_line {t : Text} (h : ¬ HasControls t) :
    controlSequence.Skips (t ++ .ofString "\n") [] := by
  rw [Pattern.skips_iff]
  intro y hy _ _ n hn
  rw [List.append_nil] at hn
  obtain ⟨parameters, letter, rest, hparameters, hletter, rfl⟩ := exists_of_controlSequence hn
  obtain ⟨before, heq⟩ := hy
  rcases rest.eq_nil_or_concat' with rfl | ⟨rest, x, rfl⟩
  · have heq' : (before ++ .char '\x1b' :: .char '[' :: parameters) ++ [letter] =
        t ++ [.char '\n'] := by simpa [Text.ofString] using heq
    obtain ⟨-, hend⟩ := List.append_inj' heq' rfl
    cases hend
    cases hletter
  · have heq' : (before ++ .char '\x1b' :: .char '[' :: (parameters ++ letter :: rest)) ++ [x] =
        t ++ [.char '\n'] := by simpa [Text.ofString] using heq
    obtain ⟨ht, -⟩ := List.append_inj' heq' rfl
    exact h ⟨parameters, letter, hparameters, hletter, before, rest, by simp [← ht]⟩

theorem echo_eq {t : Text} (h : ¬ HasControls t) : echo t = t ++ .ofString "\n" := by
  have hscan := Sections.scan_append_of_skips (skips_line h)
  rw [List.append_nil] at hscan
  rw [echo, stripControls, hscan]
  simp [Sections.pieces]

/-! ## Replies -/

/-- What loading a configuration and running the engine have to tell: an exit code, and a line
unless there is no result. -/
inductive Told (e : Environment) (path : Option Path) (arguments : List Text) :
    Nat → Option Text → Prop where
  | problem {p : Path} {problem : Config.Problem} :
      Config.load e path = .error (.problem p problem) →
      Told e path arguments 1 (some (.ofString "error_: " ++ problem.message p))
  | result {c : Config} {t : Text} :
      Config.load e path = .ok c → (Engine.run c arguments).result = .ok (some t) →
      Told e path arguments 0 (some t)
  | noResult {c : Config} :
      Config.load e path = .ok c → (Engine.run c arguments).result = .ok none →
      Told e path arguments 0 none
  | rejected {c : Config} {error : Placeholder.Error} :
      Config.load e path = .ok c →
      (Engine.run c arguments).result = .error (.placeholder error) →
      Told e path arguments 1 (some error.message)

/-- The output for a line, if there is one. -/
def printed : Option Text → Text
  | none => []
  | some t => t ++ .ofString "\n"

/-- A reply apart from its log. -/
def Reply.shown (r : Reply) : Nat × Text := (r.exitCode, r.output)

variable {e : Environment} {i i' : Invocation} {code : Nat} {line : Option Text}

theorem runEngine_of_told {path : Option Path} (h : Told e path i.arguments code line)
    (hline : ∀ t ∈ line, ¬ HasControls t) :
    ∃ log, runEngine i (Config.load e path) = .ok ⟨code, printed line, some log⟩ := by
  cases h with
  | problem hload =>
    rw [hload, runEngine, echo_eq (hline _ rfl)]
    exact ⟨_, rfl⟩
  | result hload hresult =>
    rw [hload, runEngine]
    simp only [hresult, replyTo, echo_eq (hline _ rfl)]
    exact ⟨_, rfl⟩
  | noResult hload hresult =>
    rw [hload, runEngine]
    simp only [hresult, replyTo]
    exact ⟨_, rfl⟩
  | rejected hload hresult =>
    rw [hload, runEngine]
    simp only [hresult, replyTo, Failure.message?, echo_eq (hline _ rfl)]
    exact ⟨_, rfl⟩

theorem told_of_runEngine {path : Option Path} {reply : Reply} (hne : i.arguments ≠ [])
    (h : runEngine i (Config.load e path) = .ok reply) :
    ∃ line, Told e path i.arguments reply.exitCode line := by
  cases hload : Config.load e path with
  | error failure =>
    rw [hload] at h
    cases failure with
    | problem p problem =>
      cases h
      exact ⟨_, .problem hload⟩
    | _ => cases h
  | ok c =>
    rw [hload, runEngine] at h
    rcases Engine.answered_or c i.arguments with
      (⟨output, hresult⟩ | ⟨hnil, -⟩ | ⟨rejected, hresult⟩) | ⟨error, -, hresult⟩
    · simp only [hresult] at h
      cases output with
      | none =>
        cases h
        exact ⟨_, .noResult hload hresult⟩
      | some t =>
        cases h
        exact ⟨_, .result hload hresult⟩
    · exact absurd hnil hne
    · simp only [hresult] at h
      cases h
      exact ⟨_, .rejected hload hresult⟩
    · simp only [hresult] at h
      cases h

theorem map_shown_replyTo (log log' : Text)
    (result : Except SearchTemplate.Failure (Option Text)) :
    (replyTo log result).map Reply.shown = (replyTo log' result).map Reply.shown := by
  unfold replyTo
  split
  · rfl
  · rfl
  · split <;> rfl

theorem map_shown_runEngine (h : i.arguments = i'.arguments)
    (r : Except Config.LoadFailure Config) :
    (runEngine i r).map Reply.shown = (runEngine i' r).map Reply.shown := by
  cases r with
  | error failure => cases failure <;> rfl
  | ok c =>
    rw [runEngine, runEngine]
    simp only [h]
    exact map_shown_replyTo _ _ _

theorem run_commandLine (options : List Switch) (hurl : url.head? ≠ some (.char '-'))
    (further : List Text) :
    run e (commandLine options url further) =
      let path := (lastPath options).map Path.ofText
      if namesDirectory e path then .ok usageError
      else runEngine ⟨lastPath options, options.contains .verbose, url :: further⟩
        (Config.load e path) := by
  rw [run, parse_options options hurl]

/-- **What the command replies.** Let options, a URL list that opens with no dash, and any further
arguments be given. What loading the last path and running the engine with the other arguments have
to tell is the exit code and, on a line of its own, the output. There are no other replies, and
without the log they depend on the options only through the last path. -/
theorem run_told (e : Environment) (options : List Switch) (url : Text) (further : List Text)
    (hdirectory : ∀ p ∈ lastPath options, e.disk (.ofText p) ≠ .directory)
    (hurl : url.head? ≠ some (.char '-')) :
    (∀ code line, Told e ((lastPath options).map .ofText) (url :: further) code line →
      (∀ t ∈ line, ¬ HasControls t) →
      ∃ log, run e (commandLine options url further) = .ok ⟨code, printed line, some log⟩) ∧
    (∀ reply, run e (commandLine options url further) = .ok reply →
      ∃ line, Told e ((lastPath options).map .ofText) (url :: further) reply.exitCode line) ∧
    ∀ options', lastPath options' = lastPath options →
      (run e (commandLine options' url further)).map Reply.shown =
        (run e (commandLine options url further)).map Reply.shown := by
  have hnone : namesDirectory e ((lastPath options).map .ofText) = false := by
    cases hpath : lastPath options with
    | none => rfl
    | some p => simpa [namesDirectory] using hdirectory p hpath
  have hrun {options' : List Switch} (hsame : lastPath options' = lastPath options) :
      run e (commandLine options' url further) =
        runEngine ⟨lastPath options, options'.contains .verbose, url :: further⟩
          (Config.load e ((lastPath options).map .ofText)) := by
    rw [run_commandLine options' hurl, hsame]
    simp [hnone]
  refine ⟨fun code line htold hline => ?_, fun reply hreply => ?_, fun options' hsame => ?_⟩
  · rw [hrun rfl]
    exact runEngine_of_told htold hline
  · rw [hrun rfl] at hreply
    exact told_of_runEngine (i := ⟨_, _, url :: further⟩) (List.cons_ne_nil _ _) hreply
  · rw [hrun rfl, hrun hsame]
    apply map_shown_runEngine
    rfl

/-- A file that leaves room for two placeholders, and one that is no mapping. -/
def twoFiles : Environment where
  disk := FileTree.lookup
    ⟨[([.ofString "c.yaml"], (Text.ofString "max_placeholders: 2").bytes),
      ([.ofString "d.yaml"], (Text.ofString "7").bytes)]⟩
  configVariable := none
  home := fun _ => none

def twoPlaceholders : Config :=
  { Config.standard with
    maxPlaceholders := 2
    one_le_maxPlaceholders := by decide
    maxPlaceholders_le := by decide }

/-- The file without a mapping comes first, and what follows the URL looks like an option. With the
files the other way round its problem is reported. -/
theorem run_told_twoFiles :
    (∃ log, run twoFiles (commandLine
        [.config (.ofString "d.yaml"), .verbose, .config (.ofString "c.yaml")]
        (.ofString "a\x7bsearch\\+\x7d\x7bsearch!2\\-\x7d")
        [.ofString "--verbose", .ofString "x y", .ofString "%%--", .ofString "z"]) =
      .ok ⟨0, .ofString "a--verbose+x+y---z\n", some log⟩) ∧
    (∃ log, run twoFiles (commandLine
        [.config (.ofString "c.yaml"), .config (.ofString "d.yaml"), .verbose] (.ofString "a") []) =
      .ok ⟨1, .ofString "error_: Config file must contain a mapping: d.yaml\n", some log⟩) ∧
    (run twoFiles (commandLine [.config (.ofString "d.yaml")] (.ofString "a") [])).map Reply.shown =
      (run twoFiles (commandLine
        [.config (.ofString "c.yaml"), .config (.ofString "d.yaml"), .verbose] (.ofString "a")
        [])).map Reply.shown := by
  have hplain {t : Text} (h : .char '\x1b' ∉ t) : ∀ t' ∈ some t, ¬ HasControls t' := by
    rintro _ ⟨⟩ ⟨_, _, -, -, hcontrols⟩
    exact h (hcontrols.mem List.mem_cons_self)
  obtain ⟨hfirst, -, -⟩ := run_told twoFiles
    [.config (.ofString "d.yaml"), .verbose, .config (.ofString "c.yaml")]
    (.ofString "a\x7bsearch\\+\x7d\x7bsearch!2\\-\x7d")
    [.ofString "--verbose", .ofString "x y", .ofString "%%--", .ofString "z"]
    (by rintro _ ⟨⟩; decide) (by decide)
  obtain ⟨hsecond, -, hshown⟩ := run_told twoFiles
    [.config (.ofString "c.yaml"), .config (.ofString "d.yaml"), .verbose] (.ofString "a") []
    (by rintro _ ⟨⟩; decide) (by decide)
  have hload : Config.load twoFiles (some (.ofText (.ofString "c.yaml"))) = .ok twoPlaceholders :=
    rfl
  refine ⟨hfirst 0 (some (.ofString "a--verbose+x+y---z")) (.result hload ?_) (hplain (by decide)),
    hsecond 1 _ (.problem rfl) (hplain (by decide)), hshown _ rfl⟩
  decide +kernel

end SearchTemplate.CommandLine
