import SearchTemplate.Proofs.Engine.Rejection
import SearchTemplate.Proofs.Entry.Trace

/-!
# What a run reports

The events of a run are those of the traces of its entries, one after the other, and its result is
made of the texts of the same traces (`Engine.Logged`). A run ends with the traces of all entries,
or right after the report of the first bad placeholder (`Engine.run_logged`).
-/

namespace SearchTemplate.Engine

/-- The three ways to report a run over `entries`, with the result that each goes with. -/
inductive Logged (c : Config) (entries : List Entry) (queries : List Text) :
    Outcome (Option Text) → Prop where
  | empty : entries = [] → Logged c entries queries ⟨[.emptyUrlList], .ok none⟩
  | rendered {traces : List Entry.Trace} :
      entries ≠ [] → entries = traces.map Entry.Trace.entry →
      (∀ t ∈ traces, t.Sound c queries []) →
      Logged c entries queries
        ⟨.start entries.length queries.length ::
          traces.flatMap (Entry.Trace.events queries.length),
        .ok (some (Text.join c.entryDelimiter.text (traces.map (Entry.Trace.text c))))⟩
  /-- The trace `last` is that of the entry with the bad placeholder `p`, and ends before it. -/
  | rejected {traces : List Entry.Trace} {last : Entry.Trace} {later : List Entry}
      {p : Placeholder} {rest : List Placeholder} {error : Placeholder.Error} :
      entries = traces.map Entry.Trace.entry ++ last.entry :: later →
      (∀ t ∈ traces, t.Sound c queries []) → last.Sound c queries (p :: rest) →
      p.FirstBroken c error.fault → error.url = last.entry.url → error.source = p.source →
      Logged c entries queries
        ⟨.start entries.length queries.length ::
          (traces.flatMap (Entry.Trace.events queries.length) ++
            (last.events queries.length ++ [.rejected error])),
        .error (.placeholder error)⟩

variable {c : Config} {queries : List Text} {entries : List Entry} {raw : Text}
  {fragments : List Text}

/-! ## The report of a bad placeholder -/

theorem eq_nil_of_concat_eq_append {α : Type} {xs before after : List α} {x y : α}
    (hy : y ∉ xs) (h : xs ++ [x] = before ++ y :: after) : after = [] := by
  rcases after.eq_nil_or_concat' with rfl | ⟨after, z, rfl⟩
  · rfl
  · rw [← List.cons_append, ← List.append_assoc] at h
    obtain ⟨hxs, -⟩ := List.append_inj' h rfl
    exact absurd (by simp [hxs]) hy

namespace Logged

variable {outcome : Outcome (Option Text)}

/-- What was reported is what the run fails with. -/
theorem rejected_mem_iff (h : Logged c entries queries outcome) (error : Placeholder.Error) :
    .rejected error ∈ outcome.events ↔ outcome.result = .error (.placeholder error) := by
  cases h with
  | empty => simp
  | rendered => simp [Entry.Trace.not_rejected]
  | rejected => simp [Entry.Trace.not_rejected, eq_comm]

/-- A report is the last event. -/
theorem eq_nil_of_append (h : Logged c entries queries outcome) {before after : List Event}
    {error : Placeholder.Error} (heq : outcome.events = before ++ .rejected error :: after) :
    after = [] := by
  have hmem : .rejected error ∈ outcome.events := by simp [heq]
  cases h with
  | empty => simp at hmem
  | rendered => simp [Entry.Trace.not_rejected] at hmem
  | @rejected traces last later p rest error' =>
    have hbefore : .rejected error ∉ .start entries.length queries.length ::
        (traces.flatMap (Entry.Trace.events queries.length) ++ last.events queries.length) := by
      simp [Entry.Trace.not_rejected]
    rw [← List.append_assoc] at heq
    exact eq_nil_of_concat_eq_append hbefore heq

end Logged

/-! ## The events of a run -/

/-- The traces of the first entries stand before what the others give. -/
theorem renderEntries_append (hc : c.Encodable) {traces : List Entry.Trace}
    (h : ∀ t ∈ traces, t.Sound c queries []) (rest : List Entry) :
    renderEntries c queries (traces.map Entry.Trace.entry ++ rest) =
      (renderEntries c queries rest).after (traces.flatMap (Entry.Trace.events queries.length))
        (traces.map (Entry.Trace.text c) ++ ·) := by
  induction traces with
  | nil => exact (Outcome.after_nil _).symm
  | cons t traces ih =>
    obtain ⟨ht, hrest⟩ := List.forall_mem_cons.mp h
    rw [List.map_cons, List.cons_append, renderEntries, Entry.Trace.render_of_complete hc ht,
      Outcome.ok_bind_eq_after, ih hrest, Outcome.after_after]
    rfl

theorem renderEntries_of_complete (hc : c.Encodable) {traces : List Entry.Trace}
    (h : ∀ t ∈ traces, t.Sound c queries []) :
    renderEntries c queries (traces.map Entry.Trace.entry) =
      ⟨traces.flatMap (Entry.Trace.events queries.length),
        .ok (traces.map (Entry.Trace.text c))⟩ := by
  simpa [Outcome.after, renderEntries, Except.map] using renderEntries_append hc h []

theorem logged_run (hc : c.Encodable) (raw : Text) (fragments : List Text) :
    Logged c (Entry.split c raw) (Query.split c fragments) (run c (raw :: fragments)) := by
  by_cases hnil : Entry.split c raw = []
  · rw [run_of_nil hnil]
    exact .empty hnil
  obtain ⟨traces, rest, hentries, htraces, hrest⟩ :=
    exists_longest fun e (_ : e ∈ Entry.split c raw) =>
      Entry.Trace.exists_complete_or_bad c (Query.split c fragments) e
  rw [run_of_ne_nil hnil]
  cases rest with
  | nil =>
    rw [List.append_nil] at hentries
    rw [hentries, renderEntries_of_complete hc htraces]
    exact .rendered (hentries ▸ hnil) rfl htraces
  | cons e later =>
    obtain ⟨last, p, rest, error, rfl, hlast, herror, hurl, hsource⟩ := hrest e rfl
    rw [hentries, renderEntries_append hc htraces, renderEntries,
      Entry.Trace.render_of_bad hc hlast herror hurl hsource, Outcome.error_bind]
    exact .rejected rfl htraces hlast herror hurl hsource

/-- **The log of a run.** A run over an empty URL list reports just that. Any other run reports its
entries and placeholders in order, each with the query that was put in its place and with a notice
where there is no such query, and returns the texts that were reported. It fails if and only if it
reports a bad placeholder: the first one, with the error that it fails with, and nothing after
that. -/
theorem run_logged (c : Config) (hc : c.Encodable) (raw : Text) (fragments : List Text) :
    Logged c (Entry.split c raw) (Query.split c fragments) (run c (raw :: fragments)) ∧
    (∀ error, .rejected error ∈ (run c (raw :: fragments)).events ↔
      (run c (raw :: fragments)).result = .error (.placeholder error)) ∧
    ∀ before error after,
      (run c (raw :: fragments)).events = before ++ .rejected error :: after → after = [] := by
  have hlogged := logged_run hc raw fragments
  exact ⟨hlogged, hlogged.rejected_mem_iff, fun before error after => hlogged.eq_nil_of_append⟩

/-- Three entries, the second of which has a bad placeholder. -/
def loggedList : Text :=
  .ofString "a\x7bsearch\\+\x7db\x7bsearch!3\\-\x7d<>d<|>e\x7bsearch\\+\x7d\x7bsearch\\\x7d<|>f"

def loggedError : Placeholder.Error :=
  ⟨.missingDelimiter, .ofString "e\x7bsearch\\+\x7d\x7bsearch\\\x7d", .ofString "\x7bsearch\\\x7d"⟩

/-- There is one query; the second placeholder asks for the third. -/
theorem run_logged_secondEntry :
    Config.standard.Encodable ∧
    Logged .standard (Entry.split .standard loggedList) [.ofString "x y"]
      (run .standard [loggedList, .ofString "x y"]) ∧
    (run .standard [loggedList, .ofString "x y"]).events =
      [.start 3 1,
        .entry (.ofString "a\x7bsearch\\+\x7db\x7bsearch!3\\-\x7d") 2,
        .placeholder 1 [] (.ofString "+") 0,
        .placeholder 2 (.ofString "!3") (.ofString "-") 2,
        .queryMissing (.ofString "\x7bsearch!3\\-\x7d"),
        .entry (.ofString "e\x7bsearch\\+\x7d\x7bsearch\\\x7d") 2,
        .placeholder 1 [] (.ofString "+") 0,
        .rejected loggedError] ∧
    (run .standard [loggedList, .ofString "x y"]).result = .error (.placeholder loggedError) := by
  obtain ⟨hlogged, hrejected, -⟩ :=
    run_logged .standard (by decide) loggedList [.ofString "x y"]
  have hqueries : Query.split .standard [.ofString "x y"] = [.ofString "x y"] := by decide +kernel
  rw [hqueries] at hlogged
  refine ⟨by decide, hlogged, by decide +kernel, (hrejected loggedError).mp ?_⟩
  decide +kernel

end SearchTemplate.Engine
