import SearchTemplate.Entry.Render
import SearchTemplate.Proofs.Config.UnsafeSets
import SearchTemplate.Proofs.Engine.Outcome
import SearchTemplate.Proofs.Entry.Parts
import SearchTemplate.Proofs.Placeholder.Rules

/-!
# What rendering does

Each step of rendering as one equation, under a configuration with both unsafe sets. A placeholder
fails exactly where it breaks a rule, whatever the queries are
(`Entry.result_renderPlaceholder_eq_error_iff`), and an entry is rendered as its placeholders, its
trailing text and its data in a row (`Entry.result_render`).
-/

namespace SearchTemplate

namespace Options

/-- A query position that was read is at least one. -/
def PositionPos (o : Options) : Prop := ∀ position, o.queryPosition = some position → 1 ≤ position

theorem positionPos_apply {o : Options} (ho : o.PositionPos) {limit : Nat} {d : Directive}
    (hd : ∀ f, ¬ d.Bad limit f) : (o.apply d).PositionPos := by
  intro position h
  cases d with
  | query n =>
    have hn : 1 ≤ n ∧ n ≤ limit := Classical.not_not.mp fun hn => hd _ (.query hn)
    cases h
    omega
  | word n => cases n <;> exact ho position h
  | upper n => cases n <;> exact ho position h
  | capitalize | reverse | stripCommas => exact ho position h

theorem positionPos_foldl {o : Options} (ho : o.PositionPos) {limit : Nat} {ds : List Directive}
    (hds : ∀ d ∈ ds, ∀ f, ¬ d.Bad limit f) : (ds.foldl apply o).PositionPos := by
  induction ds generalizing o with
  | nil => exact ho
  | cons d ds ih =>
    obtain ⟨hd, hds⟩ := List.forall_mem_cons.mp hds
    exact ih (positionPos_apply ho hd) hds

end Options

namespace Placeholder

variable {c : Config} {p : Placeholder}

theorem index_nonneg {o : Options} (h : p.read c = .ok o) (hp : 1 ≤ p.occurrence) :
    0 ≤ Query.index p o := by
  obtain ⟨-, ds, -, hds, rfl⟩ := read_eq_ok_iff.mp h
  have hpos : (ds.foldl Options.apply {}).PositionPos :=
    Options.positionPos_foldl (by intro _ h; cases h) hds
  unfold Query.index
  split
  · omega
  · rename_i position hposition
    have := hpos position hposition
    split <;> omega

end Placeholder

theorem Query.select_of_nonneg {queries : List Text} {index : Int} (h : 0 ≤ index) :
    Query.select queries index = .ok queries[index.toNat]? := if_pos h

namespace Entry

variable {c : Config} {queries : List Text} {url : Text} {p : Placeholder}

/-! ## One placeholder -/

/-- What stands for a placeholder, given the query that it selects. -/
def replacement (c : Config) (p : Placeholder) (o : Options) : Option Text → Text
  | none => []
  | some q => Query.render c.querySet p.delimiter (Query.transform o q)

/-- The events of a placeholder that breaks no rule. -/
def placeholderEvents (p : Placeholder) (o : Options) (query : Option Text) : List Event :=
  .placeholder p.occurrence p.options p.delimiter (Query.index p o) ::
    if query.isNone then [.queryMissing p.source] else []

theorem escapeLiteral_eq (hc : c.Encodable) (t : Text) :
    escapeLiteral c t = pure (Percent.escape c.urlSet t) := by
  rw [escapeLiteral, Config.urlUnsafe_eq hc]
  rfl

theorem renderQuery_eq (hc : c.Encodable) (p : Placeholder) (o : Options) (query : Option Text) :
    renderQuery c p o query =
      ⟨if query.isNone then [.queryMissing p.source] else [], .ok (replacement c p o query)⟩ := by
  cases query with
  | none => rfl
  | some q =>
    rw [renderQuery, Config.queryUnsafe_eq hc]
    rfl

theorem result_renderPlaceholder_of_read {o : Options} (h : p.read c = .ok o) :
    (renderPlaceholder c queries url p).result = do
      let before ← (escapeLiteral c p.before).result
      let query ←
        (Outcome.ofExcept .indexOutOfRange (Query.select queries (Query.index p o))).result
      let rendered ← (renderQuery c p o query).result
      return before ++ rendered := by
  have hread : readPlaceholder c url p = pure o := by rw [readPlaceholder, h]
  simp only [renderPlaceholder, hread, Outcome.pure_bind_eq, Outcome.result_bind,
    Outcome.result_log, Outcome.result_pure]
  rfl

theorem renderPlaceholder_of_error {f : Placeholder.Fault} (h : p.read c = .error f) :
    renderPlaceholder c queries url p =
      ⟨[.rejected ⟨f, url, p.source⟩], .error (.placeholder ⟨f, url, p.source⟩)⟩ := by
  rw [renderPlaceholder, readPlaceholder, h]
  rfl

theorem renderPlaceholder_of_ok (hc : c.Encodable) {o : Options} (h : p.read c = .ok o)
    (hp : 1 ≤ p.occurrence) {query : Option Text}
    (hquery : queries[(Query.index p o).toNat]? = query) :
    renderPlaceholder c queries url p =
      ⟨placeholderEvents p o query,
        .ok (Percent.escape c.urlSet p.before ++ replacement c p o query)⟩ := by
  have hread : readPlaceholder c url p = pure o := by rw [readPlaceholder, h]
  have hselect : Query.select queries (Query.index p o) = .ok query :=
    hquery ▸ Query.select_of_nonneg (Placeholder.index_nonneg h hp)
  simp only [renderPlaceholder, hread, Outcome.pure_bind_eq, escapeLiteral_eq hc, hselect,
    renderQuery_eq hc]
  cases query <;> rfl

theorem result_renderPlaceholder_eq_ok_iff (hc : c.Encodable) (hp : 1 ≤ p.occurrence) {r : Text} :
    (renderPlaceholder c queries url p).result = .ok r ↔ ∃ o, p.read c = .ok o ∧
      r = Percent.escape c.urlSet p.before ++
        replacement c p o queries[(Query.index p o).toNat]? := by
  cases h : p.read c with
  | error f =>
    rw [renderPlaceholder_of_error h]
    simp
  | ok o =>
    rw [renderPlaceholder_of_ok hc h hp rfl]
    simp [eq_comm]

/-- **No query makes a placeholder fail.** -/
theorem result_renderPlaceholder_eq_error_iff (hc : c.Encodable) (hp : 1 ≤ p.occurrence)
    {failure : Failure} : (renderPlaceholder c queries url p).result = .error failure ↔
      ∃ error, failure = .placeholder error ∧ p.FirstBroken c error.fault ∧ error.url = url ∧
        error.source = p.source := by
  cases h : p.read c with
  | error f =>
    have hbroken := Placeholder.read_eq_error_iff.mp h
    rw [renderPlaceholder_of_error h]
    refine ⟨?_, ?_⟩
    · intro heq
      cases heq
      exact ⟨_, rfl, hbroken, rfl, rfl⟩
    · rintro ⟨⟨g, url', source⟩, rfl, hg, rfl, rfl⟩
      rw [hbroken.unique hg]
  | ok o =>
    rw [renderPlaceholder_of_ok hc h hp rfl]
    refine ⟨?_, ?_⟩
    · intro heq
      cases heq
    · rintro ⟨error, -, hbroken, -⟩
      rw [Placeholder.read_eq_error_iff.mpr hbroken] at h
      cases h

theorem exists_result_renderPlaceholder_eq_ok_iff (hc : c.Encodable) (hp : 1 ≤ p.occurrence) :
    (∃ r, (renderPlaceholder c queries url p).result = .ok r) ↔ p.KeepsRules c := by
  rw [← Placeholder.read_ok_iff]
  cases h : p.read c with
  | error f =>
    rw [renderPlaceholder_of_error h]
    simp
  | ok o =>
    rw [renderPlaceholder_of_ok hc h hp rfl]
    simp

/-! ## One entry -/

theorem result_renderPlaceholders (ps : List Placeholder) :
    (renderPlaceholders c queries url ps).result =
      (ps.mapM fun p => (renderPlaceholder c queries url p).result).map List.flatten := by
  induction ps with
  | nil => rfl
  | cons p ps ih =>
    rw [renderPlaceholders, List.mapM_cons, Outcome.result_bind]
    cases (renderPlaceholder c queries url p).result with
    | error failure => rfl
    | ok first =>
      show (renderPlaceholders c queries url ps >>= fun others =>
        (pure (first ++ others) : Outcome Text)).result = _
      rw [Outcome.result_bind, ih]
      cases ps.mapM fun p => (renderPlaceholder c queries url p).result with
      | error failure => rfl
      | ok others => rfl

theorem renderTrailing_eq (hc : c.Encodable) (t : Text) :
    renderTrailing c t = pure (Percent.escape c.urlSet t) := by
  cases t with
  | nil => rfl
  | cons s t => exact escapeLiteral_eq hc _

variable {e : Entry}

theorem one_le_occurrence (hp : p ∈ e.placeholders) : 1 ≤ p.occurrence := by
  obtain ⟨i, hi⟩ := List.mem_iff_getElem?.mp hp
  rw [(Scan.grammatical_ofUrl e.url).occurrence i p hi]
  omega

theorem result_render_eq (c : Config) (queries : List Text) (e : Entry) :
    (e.render c queries).result = do
      let parts ← e.placeholders.mapM fun p => (renderPlaceholder c queries e.url p).result
      let trailing ← (renderTrailing c (Scan.ofUrl e.url).trailing).result
      return parts.flatten ++ trailing ++ e.data.getD [] := by
  rw [render]
  simp only [Outcome.result_bind, Outcome.result_log, Outcome.result_pure,
    result_renderPlaceholders]
  cases h : e.placeholders.mapM fun p => (renderPlaceholder c queries e.url p).result with
  | error failure =>
    rw [placeholders] at h
    rw [h]
    rfl
  | ok parts =>
    rw [placeholders] at h
    rw [h]
    rfl

theorem result_render (hc : c.Encodable) (queries : List Text) (e : Entry) :
    (e.render c queries).result =
      (e.placeholders.mapM fun p => (renderPlaceholder c queries e.url p).result).map fun parts =>
        parts.flatten ++ Percent.escape c.urlSet (Scan.ofUrl e.url).trailing ++ e.data.getD [] := by
  rw [result_render_eq, renderTrailing_eq hc]
  rfl

end Entry

end SearchTemplate
