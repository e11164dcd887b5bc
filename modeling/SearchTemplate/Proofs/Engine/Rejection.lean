import SearchTemplate.Engine.Run
import SearchTemplate.Proofs.Entry.Render

/-!
# When a run is rejected

A run fails exactly where a placeholder breaks a rule, with the report of the first bad placeholder
of the first bad entry (`Engine.run_rejected_iff`). Neither the queries nor the data of the entries
have a part in it.
-/

namespace SearchTemplate

namespace Entry

/-- No placeholder of the entry breaks a rule. -/
def Good (c : Config) (e : Entry) : Prop := ∀ p ∈ e.placeholders, p.KeepsRules c

/-- The report of the first placeholder of the entry that breaks a rule. -/
def FirstBad (c : Config) (e : Entry) (error : Placeholder.Error) : Prop :=
  ∃ before p after, e.placeholders = before ++ p :: after ∧
    (∀ q ∈ before, q.KeepsRules c) ∧ p.FirstBroken c error.fault ∧
    error.url = e.url ∧ error.source = p.source

variable {c : Config} {queries : List Text} {e : Entry}

theorem result_render_eq_error_iff (hc : c.Encodable) {failure : Failure} :
    (e.render c queries).result = .error failure ↔
      ∃ error, failure = .placeholder error ∧ e.FirstBad c error := by
  rw [result_render hc, map_eq_error_iff, mapM_eq_error_iff]
  have hocc : ∀ {before p after}, e.placeholders = before ++ p :: after →
      (∀ q ∈ before, 1 ≤ q.occurrence) ∧ 1 ≤ p.occurrence := fun h =>
    ⟨fun q hq => one_le_occurrence (h ▸ List.mem_append_left _ hq),
      one_le_occurrence (h ▸ List.mem_append_right _ List.mem_cons_self)⟩
  refine ⟨?_, ?_⟩
  · rintro ⟨before, p, after, hps, hbefore, hp⟩
    obtain ⟨hq, hpos⟩ := hocc hps
    obtain ⟨error, rfl, hbroken, hurl, hsource⟩ :=
      (result_renderPlaceholder_eq_error_iff hc hpos).mp hp
    refine ⟨error, rfl, before, p, after, hps, fun q hqm => ?_, hbroken, hurl, hsource⟩
    exact (exists_result_renderPlaceholder_eq_ok_iff hc (hq q hqm)).mp (hbefore q hqm)
  · rintro ⟨error, rfl, before, p, after, hps, hbefore, hbroken, hurl, hsource⟩
    obtain ⟨hq, hpos⟩ := hocc hps
    refine ⟨before, p, after, hps, fun q hqm => ?_, ?_⟩
    · exact (exists_result_renderPlaceholder_eq_ok_iff hc (hq q hqm)).mpr (hbefore q hqm)
    · exact (result_renderPlaceholder_eq_error_iff hc hpos).mpr
        ⟨error, rfl, hbroken, hurl, hsource⟩

theorem exists_result_render_eq_ok_iff (hc : c.Encodable) :
    (∃ r, (e.render c queries).result = .ok r) ↔ e.Good c := by
  rw [result_render hc, exists_map_eq_ok_iff, exists_mapM_eq_ok_iff]
  have hone : ∀ p ∈ e.placeholders, (∃ r, (renderPlaceholder c queries e.url p).result = .ok r) ↔
      p.KeepsRules c := fun p hp =>
    exists_result_renderPlaceholder_eq_ok_iff hc (one_le_occurrence hp)
  exact ⟨fun h p hp => (hone p hp).mp (h p hp), fun h p hp => (hone p hp).mpr (h p hp)⟩

end Entry

namespace Engine

/-- The report of the first bad placeholder of the first bad entry. -/
def FirstBad (c : Config) (entries : List Entry) (error : Placeholder.Error) : Prop :=
  ∃ before e after, entries = before ++ e :: after ∧ (∀ e' ∈ before, e'.Good c) ∧
    e.FirstBad c error

variable {c : Config} {raw : Text} {fragments : List Text}

theorem result_renderEntries (queries : List Text) (entries : List Entry) :
    (renderEntries c queries entries).result =
      entries.mapM fun e => (e.render c queries).result := by
  induction entries with
  | nil => rfl
  | cons e rest ih =>
    rw [renderEntries, List.mapM_cons, Outcome.result_bind]
    simp only [Outcome.result_bind, Outcome.result_pure, ih]
    rfl

theorem run_of_nil (h : Entry.split c raw = []) :
    run c (raw :: fragments) = ⟨[.emptyUrlList], .ok none⟩ := by
  rw [run, substitute, h]
  rfl

theorem run_of_ne_nil (h : Entry.split c raw ≠ []) :
    run c (raw :: fragments) =
      (renderEntries c (Query.split c fragments) (Entry.split c raw)).after
        [.start (Entry.split c raw).length (Query.split c fragments).length]
        fun rendered => some (Text.join c.entryDelimiter.text rendered) := by
  rw [run, substitute]
  split
  · contradiction
  · exact Outcome.ok_bind_eq_after [_] () _ fun _ rendered =>
      some (Text.join c.entryDelimiter.text rendered)

theorem result_run_of_nil (h : Entry.split c raw = []) :
    (run c (raw :: fragments)).result = .ok none := by
  rw [run_of_nil h]

theorem result_run_of_ne_nil (h : Entry.split c raw ≠ []) :
    (run c (raw :: fragments)).result =
      ((Entry.split c raw).mapM fun e : Entry => (e.render c (Query.split c fragments)).result).map
        fun rendered => some (Text.join c.entryDelimiter.text rendered) := by
  rw [run_of_ne_nil h, Outcome.result_after, result_renderEntries]

theorem result_run_eq_none_iff :
    (run c (raw :: fragments)).result = .ok none ↔ Entry.split c raw = [] := by
  refine ⟨fun h => ?_, result_run_of_nil⟩
  by_contra hne
  rw [result_run_of_ne_nil hne, map_eq_ok_iff] at h
  obtain ⟨rendered, -, hsome⟩ := h
  cases hsome

/-- A run with a result renders every entry, of which there is at least one. -/
theorem result_run_eq_some_iff {output : Text} :
    (run c (raw :: fragments)).result = .ok (some output) ↔ Entry.split c raw ≠ [] ∧
      ∃ renderings : List Text,
        List.Forall₂ (fun (e : Entry) rendering =>
          (e.render c (Query.split c fragments)).result = .ok rendering)
          (Entry.split c raw) renderings ∧
        output = Text.join c.entryDelimiter.text renderings := by
  by_cases hnil : Entry.split c raw = []
  · rw [result_run_of_nil hnil]
    simp [hnil]
  · rw [result_run_of_ne_nil hnil, map_eq_ok_iff]
    simp only [mapM_eq_ok_iff, Option.some.injEq, ne_eq, hnil, not_false_eq_true, true_and,
      eq_comm (a := output)]

/-- A run fails as the first entry whose rendering fails. -/
theorem result_run_eq_error_iff_first {failure : Failure} :
    (run c (raw :: fragments)).result = .error failure ↔
      ∃ before e after, Entry.split c raw = before ++ e :: after ∧
        (∀ e' ∈ before, ∃ r, (e'.render c (Query.split c fragments)).result = .ok r) ∧
        (e.render c (Query.split c fragments)).result = .error failure := by
  by_cases hnil : Entry.split c raw = []
  · rw [result_run_of_nil hnil, hnil]
    refine ⟨fun h => (by cases h), ?_⟩
    rintro ⟨before, e, after, h, -⟩
    exact absurd h.symm (by simp)
  · rw [result_run_of_ne_nil hnil, map_eq_error_iff, mapM_eq_error_iff]

theorem result_run_eq_error_iff (hc : c.Encodable) {failure : Failure} :
    (run c (raw :: fragments)).result = .error failure ↔
      ∃ error, failure = .placeholder error ∧ FirstBad c (Entry.split c raw) error := by
  rw [result_run_eq_error_iff_first]
  simp only [Entry.exists_result_render_eq_ok_iff hc, Entry.result_render_eq_error_iff hc]
  refine ⟨?_, ?_⟩
  · rintro ⟨before, e, after, hentries, hgood, error, rfl, hbad⟩
    exact ⟨error, rfl, before, e, after, hentries, hgood, hbad⟩
  · rintro ⟨error, rfl, before, e, after, hentries, hgood, hbad⟩
    exact ⟨before, e, after, hentries, hgood, error, rfl, hbad⟩

theorem exists_result_run_eq_ok_iff (hc : c.Encodable) :
    (∃ output, (run c (raw :: fragments)).result = .ok output) ↔
      ∀ e ∈ Entry.split c raw, e.Good c := by
  by_cases hnil : Entry.split c raw = []
  · rw [result_run_of_nil hnil, hnil]
    simp
  · rw [result_run_of_ne_nil hnil, exists_map_eq_ok_iff, exists_mapM_eq_ok_iff]
    simp only [Entry.exists_result_render_eq_ok_iff hc]

/-- **What makes a run fail.** A run fails if and only if a placeholder of an entry breaks a rule,
and then with the report of the first bad placeholder of the first bad entry. The fragments have no
part in it: with others the run succeeds as well, or fails with the same report. -/
theorem run_rejected_iff (c : Config) (hc : c.Encodable) (raw : Text) (fragments : List Text) :
    (∀ error, (run c (raw :: fragments)).result = .error (.placeholder error) ↔
      FirstBad c (Entry.split c raw) error) ∧
    ((∃ error, (run c (raw :: fragments)).result = .error (.placeholder error)) ↔
      ∃ e ∈ Entry.split c raw, ∃ p ∈ e.placeholders, ∃ n f, p.Breaks c n f) ∧
    ((∀ e ∈ Entry.split c raw, ∀ p ∈ e.placeholders, ∀ n f, ¬ p.Breaks c n f) →
      ∃ output, (run c (raw :: fragments)).result = .ok output) ∧
    ∀ others : List Text,
      ((∃ output, (run c (raw :: fragments)).result = .ok output) ∧
        ∃ output, (run c (raw :: others)).result = .ok output) ∨
      ∃ error, (run c (raw :: fragments)).result = .error (.placeholder error) ∧
        (run c (raw :: others)).result = .error (.placeholder error) := by
  have herror : ∀ (frs : List Text) error,
      (run c (raw :: frs)).result = .error (.placeholder error) ↔
        FirstBad c (Entry.split c raw) error := by
    intro frs error
    rw [result_run_eq_error_iff hc]
    refine ⟨?_, fun h => ⟨error, rfl, h⟩⟩
    rintro ⟨_, heq, h⟩
    cases heq
    exact h
  have hok : ∀ frs : List Text, (∃ output, (run c (raw :: frs)).result = .ok output) ↔
      ∀ e ∈ Entry.split c raw, e.Good c := fun frs => exists_result_run_eq_ok_iff hc
  have hcases : ∀ frs : List Text, (∃ output, (run c (raw :: frs)).result = .ok output) ∨
      ∃ error, (run c (raw :: frs)).result = .error (.placeholder error) := by
    intro frs
    cases h : (run c (raw :: frs)).result with
    | ok output => exact .inl ⟨output, rfl⟩
    | error failure =>
      obtain ⟨error, rfl, -⟩ := (result_run_eq_error_iff hc).mp h
      exact .inr ⟨error, rfl⟩
  refine ⟨herror fragments, ⟨?_, ?_⟩, fun h => (hok fragments).mpr h, fun others => ?_⟩
  · rintro ⟨error, h⟩
    obtain ⟨before, e, after, hentries, -, ps, p, qs, hps, -, ⟨n, hn, -⟩, -⟩ :=
      (herror fragments error).mp h
    refine ⟨e, hentries ▸ List.mem_append_right _ List.mem_cons_self, p, ?_, n, _, hn⟩
    exact hps ▸ List.mem_append_right _ List.mem_cons_self
  · rintro ⟨e, he, p, hp, n, f, hn⟩
    refine (hcases fragments).resolve_left fun h => ?_
    exact (hok fragments).mp h e he p hp n f hn
  · rcases hcases fragments with h | ⟨error, h⟩
    · exact .inl ⟨h, (hok others).mpr ((hok fragments).mp h)⟩
    · exact .inr ⟨error, h, (herror others error).mpr ((herror fragments error).mp h)⟩

/-- The first bad placeholder is reported, here in the second entry. -/
theorem run_rejected_iff_bare_word :
    Config.standard.Encodable ∧
      FirstBad .standard
        (Entry.split .standard (.ofString "a\x7bsearch\\+\x7d<|>b\x7bsearch!1!W\\+\x7d"))
        ⟨.missingWordPosition, .ofString "b\x7bsearch!1!W\\+\x7d",
          .ofString "\x7bsearch!1!W\\+\x7d"⟩ := by
  refine ⟨by decide, ?_⟩
  refine ((run_rejected_iff .standard (by decide) _ []).1 _).mp ?_
  decide +kernel

end Engine

end SearchTemplate
