import SearchTemplate.Proofs.Entry.Render

/-!
# Traces of entries

A step is a placeholder that was rendered, with the index of its query and the text in its place. A
trace is an entry with the steps that its rendering took. The events and the text of a rendering are
both read off its trace: where no placeholder is left the rendering ends with the text
(`Entry.Trace.render_of_complete`), and where the next one is bad it ends with a report
(`Entry.Trace.render_of_bad`). Every entry has a trace of one of the two kinds
(`Entry.Trace.exists_complete_or_bad`).
-/

namespace SearchTemplate.Entry

variable {c : Config} {queries : List Text} {url : Text}

/-! ## Steps -/

structure Step where
  placeholder : Placeholder
  index : Nat
  text : Text

namespace Step

/-- The index is the one that the placeholder selects, and the text holds the query at it. -/
def Sound (c : Config) (queries : List Text) (s : Step) : Prop :=
  ∃ o, s.placeholder.read c = .ok o ∧ Query.index s.placeholder o = s.index ∧
    s.text = Percent.escape c.urlSet s.placeholder.before ++
      replacement c s.placeholder o queries[s.index]?

/-- What a step reports, if there are `n` queries. -/
def events (n : Nat) (s : Step) : List Event :=
  .placeholder s.placeholder.occurrence s.placeholder.options s.placeholder.delimiter s.index ::
    if n ≤ s.index then [.queryMissing s.placeholder.source] else []

theorem not_rejected {n : Nat} {s : Step} {error : Placeholder.Error} :
    .rejected error ∉ s.events n := by
  unfold events
  split <;> simp

theorem renderPlaceholder_of_sound (hc : c.Encodable) {s : Step} (hs : s.Sound c queries)
    (hp : 1 ≤ s.placeholder.occurrence) :
    renderPlaceholder c queries url s.placeholder = ⟨s.events queries.length, .ok s.text⟩ := by
  obtain ⟨o, ho, hindex, htext⟩ := hs
  have hquery : queries[(Query.index s.placeholder o).toNat]? = queries[s.index]? := by
    rw [hindex, Int.toNat_natCast]
  have hevents : placeholderEvents s.placeholder o queries[s.index]? =
      s.events queries.length := by
    simp [placeholderEvents, events, hindex]
  rw [renderPlaceholder_of_ok hc ho hp hquery, hevents, htext]

/-- A placeholder that breaks no rule has a step. -/
theorem exists_of_read {p : Placeholder} {o : Options} (ho : p.read c = .ok o)
    (hp : 1 ≤ p.occurrence) : ∃ s : Step, s.placeholder = p ∧ s.Sound c queries := by
  have hindex : ((Query.index p o).toNat : Int) = Query.index p o :=
    Int.toNat_of_nonneg (Placeholder.index_nonneg ho hp)
  let text := Percent.escape c.urlSet p.before ++
    replacement c p o queries[(Query.index p o).toNat]?
  exact ⟨⟨p, (Query.index p o).toNat, text⟩, rfl, o, ho, hindex.symm, rfl⟩

/-- The steps of the first placeholders stand before what the others give. -/
theorem renderPlaceholders_append (hc : c.Encodable) {steps : List Step}
    (hsteps : ∀ s ∈ steps, s.Sound c queries)
    (hp : ∀ s ∈ steps, 1 ≤ s.placeholder.occurrence) (rest : List Placeholder) :
    renderPlaceholders c queries url (steps.map placeholder ++ rest) =
      (renderPlaceholders c queries url rest).after (steps.flatMap (events queries.length))
        (steps.flatMap text ++ ·) := by
  induction steps with
  | nil => exact (Outcome.after_nil _).symm
  | cons s steps ih =>
    obtain ⟨hs, hsteps⟩ := List.forall_mem_cons.mp hsteps
    obtain ⟨hone, hp⟩ := List.forall_mem_cons.mp hp
    have htext : (s.text ++ ·) ∘ (steps.flatMap text ++ ·) =
        (s.text ++ steps.flatMap text ++ ·) := by
      funext t
      exact (List.append_assoc _ _ _).symm
    rw [List.map_cons, List.cons_append, renderPlaceholders, renderPlaceholder_of_sound hc hs hone,
      Outcome.ok_bind_eq_after, ih hsteps hp, Outcome.after_after, htext]
    rfl

end Step

/-! ## Traces -/

structure Trace where
  entry : Entry
  steps : List Step

namespace Trace

/-- The steps are sound, and they are those of all placeholders before `rest`. -/
structure Sound (c : Config) (queries : List Text) (t : Trace) (rest : List Placeholder) :
    Prop where
  placeholders : t.entry.placeholders = t.steps.map Step.placeholder ++ rest
  steps : ∀ s ∈ t.steps, s.Sound c queries

/-- What a trace reports, if there are `n` queries. -/
def events (n : Nat) (t : Trace) : List Event :=
  .entry t.entry.url t.entry.placeholders.length :: t.steps.flatMap (Step.events n)

/-- The texts of the steps, the literal text after them, and the data. -/
def text (c : Config) (t : Trace) : Text :=
  t.steps.flatMap Step.text ++ Percent.escape c.urlSet (Scan.ofUrl t.entry.url).trailing ++
    t.entry.data.getD []

theorem not_rejected {n : Nat} {t : Trace} {error : Placeholder.Error} :
    .rejected error ∉ t.events n := by
  simp [events, Step.not_rejected]

variable {t : Trace} {rest : List Placeholder}

theorem render_of_sound (hc : c.Encodable) (ht : t.Sound c queries rest) :
    t.entry.render c queries =
      (renderPlaceholders c queries t.entry.url rest).after (t.events queries.length) fun others =>
        t.steps.flatMap Step.text ++ others ++
          Percent.escape c.urlSet (Scan.ofUrl t.entry.url).trailing ++ t.entry.data.getD [] := by
  have hp : ∀ s ∈ t.steps, 1 ≤ s.placeholder.occurrence := by
    intro s hs
    apply one_le_occurrence (e := t.entry)
    rw [ht.placeholders]
    exact List.mem_append_left _ (List.mem_map_of_mem hs)
  have hsteps : renderPlaceholders c queries t.entry.url (Scan.ofUrl t.entry.url).placeholders =
      (renderPlaceholders c queries t.entry.url rest).after
        (t.steps.flatMap (Step.events queries.length)) (t.steps.flatMap Step.text ++ ·) := by
    rw [← Step.renderPlaceholders_append hc ht.steps hp rest, ← ht.placeholders]
    rfl
  rw [render, hsteps]
  simp only [renderTrailing_eq hc, Outcome.pure_bind_eq]
  rw [Outcome.log, Outcome.ok_bind_eq_after [_] () _ fun _ others => others ++ _ ++ _,
    Outcome.after_after]
  rfl

theorem render_of_complete (hc : c.Encodable) (ht : t.Sound c queries []) :
    t.entry.render c queries = ⟨t.events queries.length, .ok (t.text c)⟩ := by
  rw [render_of_sound hc ht]
  show (⟨t.events queries.length ++ [], .ok (t.steps.flatMap Step.text ++ [] ++ _ ++ _)⟩ :
    Outcome Text) = _
  rw [List.append_nil, List.append_nil]
  rfl

theorem render_of_bad (hc : c.Encodable) {p : Placeholder} (ht : t.Sound c queries (p :: rest))
    {error : Placeholder.Error} (herror : p.FirstBroken c error.fault)
    (hurl : error.url = t.entry.url) (hsource : error.source = p.source) :
    t.entry.render c queries =
      ⟨t.events queries.length ++ [.rejected error], .error (.placeholder error)⟩ := by
  rw [render_of_sound hc ht, renderPlaceholders,
    renderPlaceholder_of_error (Placeholder.read_eq_error_iff.mpr herror), Outcome.error_bind,
    ← hurl, ← hsource]
  rfl

theorem exists_complete_or_bad (c : Config) (queries : List Text) (e : Entry) :
    (∃ t : Trace, t.entry = e ∧ t.Sound c queries []) ∨
      ∃ (t : Trace) (p : Placeholder) (rest : List Placeholder) (error : Placeholder.Error),
        t.entry = e ∧ t.Sound c queries (p :: rest) ∧ p.FirstBroken c error.fault ∧
          error.url = e.url ∧ error.source = p.source := by
  have hstep : ∀ p ∈ e.placeholders,
      (∃ s : Step, s.placeholder = p ∧ s.Sound c queries) ∨ ∃ f, p.FirstBroken c f := by
    intro p hp
    cases hread : p.read c with
    | ok o => exact .inl (Step.exists_of_read hread (one_le_occurrence hp))
    | error f => exact .inr ⟨f, Placeholder.read_eq_error_iff.mp hread⟩
  obtain ⟨steps, rest, hps, hsteps, hrest⟩ := exists_longest hstep
  cases rest with
  | nil => exact .inl ⟨⟨e, steps⟩, rfl, hps, hsteps⟩
  | cons p rest =>
    obtain ⟨f, hf⟩ := hrest p rfl
    exact .inr ⟨⟨e, steps⟩, p, rest, ⟨f, e.url, p.source⟩, rfl, ⟨hps, hsteps⟩, hf, rfl, rfl⟩

end Trace

end SearchTemplate.Entry
