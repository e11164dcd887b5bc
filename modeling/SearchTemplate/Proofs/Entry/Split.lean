import SearchTemplate.Proofs.Entry.Parts
import SearchTemplate.Proofs.Text.Spaced

/-!
# Reading a URL list

Delimiters fall away at the start of a list where nothing but blanks precedes them, so that none
opens the rest (`Entry.not_opens_trimList`). Every entry that is read has the form that the list
gives it (`Entry.formed_of_mem_split`), and texts apart from the entry delimiter are read back from
their join, one entry from each (`Entry.split_join`).
-/

namespace SearchTemplate

namespace Entry

variable {c : Config} {raw t : Text} {e : Entry}

/-! ## One entry -/

/-- The form that a URL list gives its entries. -/
structure Formed (c : Config) (e : Entry) : Prop where
  url : ¬ c.dataDelimiter.text <:+: e.url
  data : ∀ data, e.data = some data → c.dataDelimiter.text <+: data
  source : ¬ c.entryDelimiter.text <:+: e.source

theorem source_ofText (c : Config) (t : Text) : (ofText c t).source = t := by
  have htext := Text.breakOn_append t c.dataDelimiter.text
  rw [ofText_eq, source]
  by_cases hnil : (t.breakOn c.dataDelimiter.text).2 = []
  · simpa [hnil] using htext
  · simpa [hnil] using htext

theorem formed_ofText (ht : ¬ c.entryDelimiter.text <:+: t) : (ofText c t).Formed c := by
  obtain ⟨hskip, hdata⟩ := Text.skips_breakOn c.dataDelimiter.ne_nil t
  constructor
  · rw [ofText_eq]
    exact Pattern.not_infix_of_skips c.dataDelimiter.ne_nil hskip
  · intro data h
    rw [ofText_eq] at h
    by_cases hnil : (t.breakOn c.dataDelimiter.text).2 = []
    · simp [hnil] at h
    · simp only [hnil, if_false, Option.some.injEq] at h
      exact h ▸ hdata.resolve_left hnil
  · rwa [source_ofText]

/-- An entry is read back from its text where the data delimiter stands apart from the URL. -/
theorem ofText_source (hurl : Text.Apart c.dataDelimiter.text e.url)
    (hdata : ∀ data, e.data = some data → c.dataDelimiter.text <+: data) :
    ofText c e.source = e := by
  have hne := c.dataDelimiter.ne_nil
  obtain ⟨url, _ | data⟩ := e
  · have hbreak := Text.breakOn_of_skips hne (hurl.skips_nil hne) (.inl rfl)
    rw [source, Option.getD_none, ofText_eq, hbreak, if_pos rfl]
  · obtain ⟨rest, rfl⟩ := hdata data rfl
    have hbreak := Text.breakOn_of_skips hne (hurl rest) (.inr (List.prefix_append _ _))
    rw [source, Option.getD_some, ofText_eq, hbreak, if_neg (by simp [hne])]

theorem map_ofText_map_source {es : List Entry} (h : ∀ e ∈ es, ofText c e.source = e) :
    (es.map source).map (ofText c) = es := by
  have hread : ∀ e ∈ es, (ofText c ∘ source) e = id e := h
  rw [List.map_map, List.map_congr_left hread, List.map_id]

/-! ## All entries of a list -/

theorem map_source_split (c : Config) (raw : Text) :
    (split c raw).map source
      = Text.dropTrailingEmpty ((trimList c raw).splitOn c.entryDelimiter.text) := by
  have hid : source ∘ ofText c = id := funext (source_ofText c)
  rw [split, List.map_map, hid, List.map_id]

theorem formed_of_mem_split (he : e ∈ split c raw) : e.Formed c := by
  obtain ⟨w, hw, rfl⟩ := List.mem_map.mp he
  exact formed_ofText (Text.not_infix_of_mem_splitOn c.entryDelimiter.ne_nil
    (Text.mem_of_mem_dropTrailingEmpty hw))

theorem not_opens_trimList (c : Config) (raw : Text) :
    ¬ Delimiter.Opens c.entryDelimiter.text (trimList c raw) :=
  Delimiter.not_opens_dropLeading c.entryDelimiter.ne_nil raw

theorem trimList_of_not_opens (h : ¬ Delimiter.Opens c.entryDelimiter.text t) :
    trimList c t = t :=
  Delimiter.dropLeading_of_not_opens c.entryDelimiter.ne_nil h

theorem source_head_ne_nil (h : split c raw ≠ []) : ((split c raw).head h).source ≠ [] := by
  intro hnil
  have hprefix := Text.dropTrailingEmpty_prefix ((trimList c raw).splitOn c.entryDelimiter.text)
  have hsources := map_source_split c raw
  have hjoin := Text.join_splitOn c.entryDelimiter.ne_nil (trimList c raw)
  obtain ⟨e, es, hsplit⟩ := List.exists_cons_of_ne_nil h
  obtain ⟨w, ws, hpieces⟩ := List.exists_cons_of_ne_nil
    (Text.splitOn_ne_nil (trimList c raw) c.entryDelimiter.text)
  have hw : w = [] := by
    rw [← hsources, hsplit, hpieces, List.map_cons, List.cons_prefix_cons] at hprefix
    simp only [hsplit, List.head_cons] at hnil
    rw [← hprefix.1, hnil]
  rw [hpieces, hw] at hjoin hsources
  cases ws with
  | nil =>
    rw [show Text.dropTrailingEmpty [[]] = [] from rfl, hsplit] at hsources
    cases hsources
  | cons v ws => exact not_opens_trimList c raw ⟨[], Text.join _ (v :: ws), rfl, hjoin.symm⟩

theorem source_getLast_ne_nil (h : split c raw ≠ []) :
    ((split c raw).getLast h).source ≠ [] := by
  have hsources := map_source_split c raw
  have hne : (split c raw).map source ≠ [] := by simpa using h
  rw [← List.getLast_map hne]
  simp only [hsources] at hne ⊢
  exact Text.getLast_dropTrailingEmpty_ne_nil hne

/-- Texts apart from the entry delimiter are read back from their join, one entry from each. -/
theorem split_join {ws : List Text} (hne : ws ≠ [])
    (hapart : ∀ w ∈ ws, Text.Apart c.entryDelimiter.text w)
    (hfirst : (ws.head hne).isBlank = false) (hlast : ws.getLast hne ≠ []) :
    split c (Text.join c.entryDelimiter.text ws) = ws.map (ofText c) := by
  have hd := c.entryDelimiter.ne_nil
  have hclosed : ¬ Delimiter.Opens c.entryDelimiter.text (Text.join c.entryDelimiter.text ws) := by
    obtain ⟨w, ws, rfl⟩ := List.exists_cons_of_ne_nil hne
    have hw := hapart w List.mem_cons_self
    rw [Text.join_cons]
    cases ws with
    | nil => exact Delimiter.not_opens_of_skips hd hfirst (hw.skips_nil hd)
    | cons v ws =>
      rw [List.flatMap_cons, List.append_assoc]
      exact Delimiter.not_opens_of_skips hd hfirst (hw _)
  rw [split, trimList_of_not_opens hclosed, Text.splitOn_join hd hne hapart,
    Text.dropTrailingEmpty_of_getLast fun _ => hlast]

/-- A text without the entry delimiter is one entry, also if it is blank. -/
theorem split_of_not_infix (hne : t ≠ []) (hfree : ¬ c.entryDelimiter.text <:+: t) :
    split c t = [ofText c t] := by
  have hlast : Text.dropTrailingEmpty [t] = [t] :=
    Text.dropTrailingEmpty_of_getLast fun _ => hne
  rw [split, trimList_of_not_opens (Delimiter.not_opens_of_not_infix hfree),
    Text.splitOn_of_not_infix c.entryDelimiter.ne_nil hfree, hlast]
  rfl

end Entry

end SearchTemplate
