import SearchTemplate.Placeholder.Writer
import SearchTemplate.Proofs.Entry.Render

/-!
# Naming the query of every placeholder

A placeholder without `!N` takes the query with its own number. `Entry.nameQueries` writes that
number in front of the options of every placeholder. The URL still has the same literal text, the
same delimiters and no other placeholders (`Scan.ofUrl_nameQueries`), each placeholder is read as
before but for the query position (`Placeholder.read_nameQuery`), and a later `!N` counts for more,
so that the rendering stays the same (`Entry.render_nameQueries`).
-/

namespace SearchTemplate

/-! ## Options -/

namespace Options

/-- The options in which the query with the number `n` is named, unless one is named already. -/
def nameQuery (n : Nat) (o : Options) : Options :=
  { o with queryPosition := some (o.queryPosition.getD n) }

theorem apply_nameQuery (n : Nat) (o : Options) (d : Directive) :
    (o.nameQuery n).apply d = (o.apply d).nameQuery n := by
  cases d with
  | word n => cases n <;> rfl
  | upper n => cases n <;> rfl
  | query n | capitalize | reverse | stripCommas => rfl

/-- What stands in front has no effect on the directives after it. -/
theorem foldl_apply_nameQuery (n : Nat) (o : Options) (ds : List Directive) :
    ds.foldl apply (o.nameQuery n) = (ds.foldl apply o).nameQuery n := by
  induction ds generalizing o with
  | nil => rfl
  | cons d ds ih => rw [List.foldl_cons, List.foldl_cons, apply_nameQuery, ih]

end Options

/-! ## Placeholders -/

namespace Placeholder

variable {c : Config} {p : Placeholder} {o : Options} {n : Nat}

/-- The placeholder with `!n` in front of its options. -/
def nameQuery (n : Nat) (p : Placeholder) : Placeholder :=
  let body : Body := ⟨(Directive.query n).write ++ p.options, p.delimiter⟩
  { p with options := body.options, source := body.write }

theorem Formed.nameQuery (h : p.Formed) (n : Nat) : (p.nameQuery n).Formed where
  source := rfl
  options hmem := by
    rcases List.mem_append.mp hmem with hwrite | hoptions
    · rcases List.mem_cons.mp hwrite with hmark | hdigit
      · exact absurd hmark (by decide)
      · exact absurd (Text.isDigit_of_mem_ofNat hdigit) (by decide)
    · exact h.options hoptions
  delimiter := h.delimiter
  before := h.before

theorem occurrence_le (h : p.fault? c = none) : p.occurrence ≤ c.maxPlaceholders := by
  by_contra hmany
  exact not_breaks_of_fault? h (by decide) _ (.tooMany (by omega))

/-- The number of a placeholder has at most two digits and is in the range of query positions. -/
theorem read_nameQuery (h : p.read c = .ok o) (hn : p.occurrence = n) (hpos : 1 ≤ n) :
    (p.nameQuery n).read c = .ok (o.nameQuery n) := by
  obtain ⟨hplace, ds, hrow, hgood, rfl⟩ := read_eq_ok_iff.mp h
  have hmany := occurrence_le hplace
  have hlimit := c.maxPlaceholders_le
  have hrow' : Directive.Row (p.nameQuery n).options (.query n :: ds) :=
    .cons (Directive.body_query_ofNat (by omega)) hrow
  have hgood' : ∀ f, ¬ (Directive.query n).Bad c.maxPlaceholders f := by
    rintro f ⟨hbad⟩
    exact hbad ⟨hpos, by omega⟩
  refine read_eq_ok_iff.mpr ⟨hplace, _, hrow', List.forall_mem_cons.mpr ⟨hgood', hgood⟩, ?_⟩
  exact Options.foldl_apply_nameQuery n {} ds

theorem index_nameQuery (hn : p.occurrence = n) :
    Query.index (p.nameQuery n) (o.nameQuery n) = Query.index p o := by
  have hindex : (p.nameQuery n).occurrence = p.occurrence := rfl
  obtain ⟨_ | position, _⟩ := o
  · simp only [Query.index, Options.nameQuery, Option.getD_none, hindex, hn, ite_self]
  · rfl

end Placeholder

/-! ## URLs -/

namespace Scan

/-- The scan of the URL in which the option string of the `i`-th placeholder starts with `!i`. -/
def nameQueries (scan : Scan) : Scan :=
  { scan with placeholders := scan.placeholders.mapIdx fun i p => p.nameQuery (i + 1) }

theorem Grammatical.nameQueries {scan : Scan} (h : scan.Grammatical) :
    scan.nameQueries.Grammatical where
  formed p hp := by
    obtain ⟨i, hi, rfl⟩ := List.mem_mapIdx.mp hp
    exact (h.formed _ (List.getElem_mem hi)).nameQuery _
  occurrence i p hp := by
    rw [Scan.nameQueries, List.getElem?_mapIdx] at hp
    obtain ⟨q, hq, rfl⟩ := Option.map_eq_some_iff.mp hp
    exact h.occurrence i q hq
  trailing := h.trailing

theorem ofUrl_nameQueries (url : Text) :
    ofUrl (ofUrl url).nameQueries.toUrl = (ofUrl url).nameQueries :=
  ofUrl_toUrl (grammatical_ofUrl url).nameQueries

end Scan

namespace Entry

variable {c : Config} {queries : List Text} {url url' r : Text} {p : Placeholder} {e : Entry}

/-- The entry in which every placeholder names the query with its own number. -/
def nameQueries (e : Entry) : Entry := { e with url := (Scan.ofUrl e.url).nameQueries.toUrl }

theorem placeholders_nameQueries (e : Entry) :
    e.nameQueries.placeholders = e.placeholders.mapIdx fun i p => p.nameQuery (i + 1) :=
  congrArg Scan.placeholders (Scan.ofUrl_nameQueries e.url)

theorem result_renderPlaceholder_nameQuery {n : Nat} (hn : p.occurrence = n) (hpos : 1 ≤ n)
    (h : (renderPlaceholder c queries url p).result = .ok r) :
    (renderPlaceholder c queries url' (p.nameQuery n)).result = .ok r := by
  cases hread : p.read c with
  | error f =>
    rw [renderPlaceholder_of_error hread] at h
    cases h
  | ok o =>
    have hquery : ∀ query, (renderQuery c (p.nameQuery n) (o.nameQuery n) query).result
        = (renderQuery c p o query).result := fun query => by cases query <;> rfl
    rw [result_renderPlaceholder_of_read hread] at h
    rw [result_renderPlaceholder_of_read (Placeholder.read_nameQuery hread hn hpos),
      Placeholder.index_nameQuery hn]
    simp only [hquery]
    exact h

theorem mapM_renderPlaceholder_nameQueries {parts : List Text}
    (h : (e.placeholders.mapM fun p => (renderPlaceholder c queries url p).result) = .ok parts) :
    (e.nameQueries.placeholders.mapM fun p => (renderPlaceholder c queries url' p).result)
      = .ok parts := by
  rw [mapM_eq_ok_iff, List.forall₂_iff_get] at h ⊢
  obtain ⟨hlength, hparts⟩ := h
  refine ⟨by rw [placeholders_nameQueries, List.length_mapIdx, hlength], fun i hi hi' => ?_⟩
  have hi₀ : i < e.placeholders.length := hlength ▸ hi'
  have hnumber : (e.placeholders[i]).occurrence = ((i + 1 : Nat) : Int) :=
    (Scan.grammatical_ofUrl e.url).occurrence i _ (List.getElem?_eq_getElem hi₀)
  simp only [placeholders_nameQueries, List.get_eq_getElem, List.getElem_mapIdx]
  exact result_renderPlaceholder_nameQuery hnumber (Nat.le_add_left 1 i) (hparts i hi₀ hi')

/-- **Naming the query that is taken anyway changes nothing.** If an entry is rendered, it is
rendered to the same text with the number of each placeholder named in front of its options, also
where another query is named there. -/
theorem render_nameQueries (h : (e.render c queries).result = .ok r) :
    (e.nameQueries.render c queries).result = .ok r := by
  rw [result_render_eq] at h ⊢
  obtain ⟨parts, hparts, h⟩ := bind_eq_ok_iff.mp h
  refine bind_eq_ok_iff.mpr ⟨parts, mapM_renderPlaceholder_nameQueries hparts, ?_⟩
  rw [nameQueries, Scan.ofUrl_nameQueries]
  exact h

/-- An entry with data whose second placeholder names two queries, and whose third names none and
has a query that does not exist. -/
def mixedEntry : Entry :=
  ⟨.ofString "a\x7bsearch!U\\+\x7db\x7bsearch!2!R!1\\-\x7d\\c\x7bsearch\\_\x7d d",
    some (.ofString "<>é")⟩

def mixedQueries : List Text := [.ofString "x y", .ofString "z"]

theorem render_nameQueries_mixed :
    mixedEntry.nameQueries.url = .ofString
      "a\x7bsearch!1!U\\+\x7db\x7bsearch!2!2!R!1\\-\x7d\\c\x7bsearch!3\\_\x7d d" ∧
    (mixedEntry.render .standard mixedQueries).result = .ok (.ofString "aX+Yby-x%5Cc%20d<>é") ∧
    (mixedEntry.nameQueries.render .standard mixedQueries).result =
      .ok (.ofString "aX+Yby-x%5Cc%20d<>é") := by
  have hrender : (mixedEntry.render .standard mixedQueries).result =
      .ok (.ofString "aX+Yby-x%5Cc%20d<>é") := by decide +kernel
  exact ⟨by decide +kernel, hrender, render_nameQueries hrender⟩

end Entry

end SearchTemplate
