import SearchTemplate.Config.Validation
import SearchTemplate.Proofs.Engine.Rejection
import SearchTemplate.Proofs.Entry.Split

/-!
# How a run can end

A run ends with an output or with none, with the report that there are no arguments, or with that of
a bad placeholder (`Engine.Answered`), unless an unsafe range of the configuration goes past the
last code that a symbol can have. Validation accepts such a range, and a run fails at the first
literal text that it would have to escape: that of the first entry with a URL, if the first
placeholder there, if any, breaks no rule (`Engine.answered_iff`). No query is ever selected by an
index below the first.
-/

namespace SearchTemplate

namespace Entry

variable {c : Config} {queries : List Text} {e : Entry} {error : CodeOutOfRange}

/-- Rendering the entry gets as far as literal text of its URL. -/
def ReachesText (c : Config) (e : Entry) : Prop :=
  e.url ≠ [] ∧ ∀ p, e.placeholders.head? = some p → p.KeepsRules c

theorem result_render_of_url_eq_nil (h : e.url = []) :
    (e.render c queries).result = .ok (e.data.getD []) := by
  rw [result_render_eq, placeholders, h]
  rfl

/-! ## Without unsafe sets -/

section

variable (hc : c.urlUnsafe = .error error)

include hc

theorem result_escapeLiteral_of_error (t : Text) :
    (escapeLiteral c t).result = .error (.codeOutOfRange error) := by
  rw [escapeLiteral, hc]
  rfl

theorem result_renderPlaceholder_of_error {url : Text} {p : Placeholder} {o : Options}
    (h : p.read c = .ok o) :
    (renderPlaceholder c queries url p).result = .error (.codeOutOfRange error) := by
  rw [result_renderPlaceholder_of_read h, result_escapeLiteral_of_error hc]
  rfl

theorem result_render_of_no_placeholders (hurl : e.url ≠ []) (hnone : e.placeholders = []) :
    (e.render c queries).result = .error (.codeOutOfRange error) := by
  have htrailing : (renderTrailing c (Scan.ofUrl e.url).trailing).result
      = .error (.codeOutOfRange error) := by
    obtain ⟨s, rest, hcons⟩ := List.exists_cons_of_ne_nil hurl
    rw [trailing_of_no_placeholders hnone, hcons]
    exact result_escapeLiteral_of_error hc _
  rw [result_render_eq, hnone, htrailing]
  rfl

/-- A URL is not rendered, and its first placeholder decides which failure it is. -/
theorem result_render_of_error (queries : List Text) (hurl : e.url ≠ []) :
    ∃ failure, (e.render c queries).result = .error failure ∧
      (failure = .codeOutOfRange error ∧ e.ReachesText c ∨
        (∃ rejected, failure = .placeholder rejected) ∧ ¬ e.ReachesText c) := by
  cases hps : e.placeholders with
  | nil =>
    refine ⟨_, result_render_of_no_placeholders hc hurl hps, .inl ⟨rfl, hurl, ?_⟩⟩
    simp [hps]
  | cons p ps =>
    cases hread : p.read c with
    | error f =>
      refine ⟨.placeholder ⟨f, e.url, p.source⟩, ?_, .inr ⟨⟨_, rfl⟩, fun h => ?_⟩⟩
      · rw [result_render_eq, hps, List.mapM_cons, renderPlaceholder_of_error hread]
        rfl
      · obtain ⟨o, ho⟩ := Placeholder.read_ok_iff.mpr (h.2 p (by rw [hps]; rfl))
        rw [hread] at ho
        cases ho
    | ok o =>
      refine ⟨.codeOutOfRange error, ?_, .inl ⟨rfl, hurl, fun q hq => ?_⟩⟩
      · rw [result_render_eq, hps, List.mapM_cons, result_renderPlaceholder_of_error hc hread]
        rfl
      · rw [hps] at hq
        cases hq
        exact Placeholder.read_ok_iff.mp ⟨o, hread⟩

theorem exists_result_render_eq_ok_iff_of_error :
    (∃ r, (e.render c queries).result = .ok r) ↔ e.url = [] := by
  refine ⟨?_, fun hurl => ⟨_, result_render_of_url_eq_nil hurl⟩⟩
  rintro ⟨r, h⟩
  by_contra hurl
  obtain ⟨failure, hfailure, -⟩ := result_render_of_error hc queries hurl
  rw [hfailure] at h
  cases h

theorem result_render_eq_codeOutOfRange_iff :
    (e.render c queries).result = .error (.codeOutOfRange error) ↔ e.ReachesText c := by
  by_cases hurl : e.url = []
  · rw [result_render_of_url_eq_nil hurl]
    exact ⟨fun h => (by cases h), fun h => absurd hurl h.1⟩
  · obtain ⟨failure, hfailure, ⟨rfl, hreaches⟩ | ⟨⟨rejected, rfl⟩, hnot⟩⟩ :=
      result_render_of_error hc queries hurl
    · exact ⟨fun _ => hreaches, fun _ => hfailure⟩
    · rw [hfailure]
      exact ⟨fun h => (by cases h), fun h => absurd h hnot⟩

end

/-- The only failures of an entry. -/
theorem failure_of_result_render {failure : Failure}
    (h : (e.render c queries).result = .error failure) :
    (∃ rejected, failure = .placeholder rejected) ∨
      ∃ error, c.urlUnsafe = .error error ∧ failure = .codeOutOfRange error := by
  by_cases hc : c.Encodable
  · obtain ⟨rejected, rfl, -⟩ := (result_render_eq_error_iff hc).mp h
    exact .inl ⟨rejected, rfl⟩
  · obtain ⟨error, herror⟩ := Config.exists_urlUnsafe_eq_error hc
    have hurl : e.url ≠ [] := fun hnil => by
      rw [result_render_of_url_eq_nil hnil] at h
      cases h
    obtain ⟨_, hfailure, ⟨rfl, -⟩ | ⟨hrejected, -⟩⟩ :=
      result_render_of_error herror queries hurl
    · rw [h] at hfailure
      exact .inr ⟨error, herror, Except.error.inj hfailure⟩
    · rw [h] at hfailure
      exact .inl (Except.error.inj hfailure ▸ hrejected)

end Entry

namespace Engine

variable {c : Config} {raw : Text} {fragments args : List Text} {error : CodeOutOfRange}

/-- The run ends with an output or with none, or with a report for the user. -/
def Answered (c : Config) (args : List Text) : Prop :=
  (∃ output, (run c args).result = .ok output) ∨
    (args = [] ∧ (run c args).result = .error .noArguments) ∨
    ∃ rejected, (run c args).result = .error (.placeholder rejected)

/-- The first entry with a URL is rendered as far as its literal text. -/
def ReachesText (c : Config) (entries : List Entry) : Prop :=
  ∃ before e after, entries = before ++ e :: after ∧ (∀ e' ∈ before, e'.url = []) ∧ e.ReachesText c

theorem answered_or (c : Config) (args : List Text) : Answered c args ∨
    ∃ error, c.urlUnsafe = .error error ∧ (run c args).result = .error (.codeOutOfRange error) := by
  match args with
  | [] => exact .inl (.inr (.inl ⟨rfl, rfl⟩))
  | raw :: fragments =>
    cases h : (run c (raw :: fragments)).result with
    | ok output => exact .inl (.inl ⟨output, h⟩)
    | error failure =>
      obtain ⟨_, _, _, _, -, hfailure⟩ := result_run_eq_error_iff_first.mp h
      rcases Entry.failure_of_result_render hfailure with ⟨rejected, rfl⟩ | ⟨error, herror, rfl⟩
      · exact .inl (.inr (.inr ⟨rejected, h⟩))
      · exact .inr ⟨error, herror, rfl⟩

theorem result_run_eq_codeOutOfRange_iff :
    (run c (raw :: fragments)).result = .error (.codeOutOfRange error) ↔
      c.urlUnsafe = .error error ∧ ReachesText c (Entry.split c raw) := by
  rw [result_run_eq_error_iff_first]
  constructor
  · rintro ⟨before, e, after, hsplit, hbefore, he⟩
    rcases Entry.failure_of_result_render he with ⟨_, h⟩ | ⟨error', herror, h⟩
    · cases h
    · cases h
      refine ⟨herror, before, e, after, hsplit, fun e' he' => ?_, ?_⟩
      · exact (Entry.exists_result_render_eq_ok_iff_of_error herror).mp (hbefore e' he')
      · exact (Entry.result_render_eq_codeOutOfRange_iff herror).mp he
  · rintro ⟨herror, before, e, after, hsplit, hbefore, he⟩
    refine ⟨before, e, after, hsplit, fun e' he' => ?_, ?_⟩
    · exact (Entry.exists_result_render_eq_ok_iff_of_error herror).mpr (hbefore e' he')
    · exact (Entry.result_render_eq_codeOutOfRange_iff herror).mpr he

theorem not_answered_of_codeOutOfRange (h : (run c args).result = .error (.codeOutOfRange error)) :
    ¬ Answered c args := by
  rintro (⟨output, hok⟩ | ⟨-, hnone⟩ | ⟨rejected, hrejected⟩)
  · rw [h] at hok
    cases hok
  · rw [h] at hnone
    cases hnone
  · rw [h] at hrejected
    cases hrejected

/-! ## A URL for every configuration -/

/-- One of three letters is neither of two texts. -/
theorem exists_letter (d d' : Text) :
    ∃ x : Symbol, Scan.ofUrl [x] = ⟨[], [x]⟩ ∧ [x] ≠ d ∧ [x] ≠ d' := by
  by_cases ha : [Symbol.char 'a'] ≠ d ∧ [Symbol.char 'a'] ≠ d'
  · exact ⟨.char 'a', by decide, ha⟩
  by_cases hb : [Symbol.char 'b'] ≠ d ∧ [Symbol.char 'b'] ≠ d'
  · exact ⟨.char 'b', by decide, hb⟩
  · refine ⟨.char 'c', by decide, ?_⟩
    grind

theorem not_infix_singleton {d : Delimiter} {x : Symbol} (h : [x] ≠ d.text) :
    ¬ d.text <:+: [x] := by
  rw [List.infix_singleton_iff, not_or]
  exact ⟨d.ne_nil, Ne.symm h⟩

/-- Whatever the delimiters are, there is a URL list of one URL without placeholders. -/
theorem exists_reachesText (c : Config) : ∃ raw, ReachesText c (Entry.split c raw) := by
  obtain ⟨x, hscan, hentry, hdata⟩ := exists_letter c.entryDelimiter.text c.dataDelimiter.text
  have hbreak : Text.breakOn [x] c.dataDelimiter.text = ([x], []) :=
    Text.breakOn_of_skips c.dataDelimiter.ne_nil (Pattern.skips_nil_of_not_infix
      c.dataDelimiter.ne_nil (not_infix_singleton hdata)) (.inl rfl)
  have hsplit : Entry.split c [x] = [⟨[x], none⟩] := by
    rw [Entry.split_of_not_infix (List.cons_ne_nil _ _) (not_infix_singleton hentry),
      Entry.ofText_eq, hbreak, if_pos rfl]
  refine ⟨[x], [], ⟨[x], none⟩, [], hsplit, by simp, List.cons_ne_nil _ _, ?_⟩
  intro p hp
  rw [Entry.placeholders, hscan] at hp
  cases hp

/-- **How runs end.** Every run of a configuration is answered if and only if no unsafe range goes
past the last code. A run that is not answered fails at a range that does, and it does so if and
only if it gets as far as the literal text of a URL. -/
theorem answered_iff (c : Config) :
    ((∀ args, Answered c args) ↔ c.Encodable) ∧
    (∀ args, Answered c args ∨ ∃ error, (run c args).result = .error (.codeOutOfRange error)) ∧
    ∀ raw fragments error, (run c (raw :: fragments)).result = .error (.codeOutOfRange error) ↔
      c.urlUnsafe = .error error ∧ ReachesText c (Entry.split c raw) := by
  refine ⟨⟨fun h => ?_, fun hc args => ?_⟩, fun args => ?_, fun _ _ _ =>
    result_run_eq_codeOutOfRange_iff⟩
  · by_contra hc
    obtain ⟨error, herror⟩ := Config.exists_urlUnsafe_eq_error hc
    obtain ⟨raw, hraw⟩ := exists_reachesText c
    have hrun : (run c [raw]).result = .error (.codeOutOfRange error) :=
      result_run_eq_codeOutOfRange_iff.mpr ⟨herror, hraw⟩
    exact not_answered_of_codeOutOfRange hrun (h [raw])
  · rcases answered_or c args with hanswered | ⟨error, herror, -⟩
    · exact hanswered
    · exact absurd hc (Config.not_encodable_of_urlUnsafe herror)
  · exact (answered_or c args).imp_right fun ⟨error, _, h⟩ => ⟨error, h⟩

/-- The settings with one unsafe range, which holds the first code that no symbol has. -/
def pastLastCode : Datum :=
  .map [(.str Config.Key.unsafeRanges, .list [.list [.int 0x110000, .int 0x110000]])]

/-- The configuration with these settings. -/
def unencodable : Config :=
  { Config.standard with unsafeRanges := [⟨0x110000, 0x110000⟩], usable := by decide }

/-- Validation accepts a configuration that cannot render any URL. -/
theorem not_answered_pastLastCode : Config.ofDatum pastLastCode = .ok unencodable ∧
    (run unencodable [.ofString "a"]).result = .error (.codeOutOfRange ⟨0x110000⟩) ∧
    ¬ Answered unencodable [.ofString "a"] := by
  have hrun : (run unencodable [.ofString "a"]).result = .error (.codeOutOfRange ⟨0x110000⟩) := by
    decide +kernel
  exact ⟨by decide +kernel, hrun, not_answered_of_codeOutOfRange hrun⟩

end Engine

end SearchTemplate
