import SearchTemplate.Proofs.Engine.Rejection
import SearchTemplate.Proofs.Entry.Split

/-!
# Nothing of a URL list is lost

A URL list consists of what falls away before its entries, the texts of the entries with a delimiter
between neighbours, and the delimiters of the empty entries at its end (`Entry.Listed`). Reading
takes every list apart in this way (`Entry.listed_split`), and where neither wire delimiter overlaps
itself it undoes the joining of entries (`Entry.split_join_source`).
-/

namespace SearchTemplate.Entry

variable {c : Config} {raw : Text}

/-- How `raw` lists the entries `es`: after the delimiters that open it, in `lead`, and with the
delimiters of `k` empty entries at its end. -/
structure Listed (c : Config) (raw lead : Text) (k : Nat) (es : List Entry) : Prop where
  text : raw = lead ++ (Text.join c.entryDelimiter.text (es.map source) ++
    (List.replicate k c.entryDelimiter.text).flatten)
  blocks : Delimiter.Blocks c.entryDelimiter.text lead
  /-- All that opens the list is in `lead`. -/
  not_opens : ¬ Delimiter.Opens c.entryDelimiter.text
    (Text.join c.entryDelimiter.text (es.map source) ++
      (List.replicate k c.entryDelimiter.text).flatten)
  formed : ∀ e ∈ es, e.Formed c
  head_ne_nil : ∀ h : es ≠ [], (es.head h).source ≠ []
  getLast_ne_nil : ∀ h : es ≠ [], (es.getLast h).source ≠ []
  eq_lead : es = [] → raw = lead

/-! ## Lists without entries -/

theorem trimList_of_split_eq_nil (h : split c raw = []) : trimList c raw = [] := by
  obtain ⟨k, hpieces⟩ :=
    Text.exists_dropTrailingEmpty_append ((trimList c raw).splitOn c.entryDelimiter.text)
  rw [← map_source_split, h, List.map_nil, List.nil_append] at hpieces
  have hjoin := Text.join_splitOn c.entryDelimiter.ne_nil (trimList c raw)
  rw [hpieces] at hjoin
  match k, hpieces, hjoin with
  | 0, hpieces, _ => exact absurd hpieces (Text.splitOn_ne_nil _ _)
  | 1, _, hjoin => exact hjoin.symm
  | k + 2, _, hjoin =>
    -- a second empty piece puts a delimiter at the start of the trimmed list
    exact absurd ⟨[], _, rfl, hjoin.symm⟩ (not_opens_trimList c raw)

theorem split_eq_nil_iff : split c raw = [] ↔ trimList c raw = [] := by
  refine ⟨trimList_of_split_eq_nil, fun h => ?_⟩
  rw [split, h]
  rfl

theorem split_eq_nil_iff_blocks (hd : ∀ s ∈ c.entryDelimiter.text, s.isBlank = false) :
    split c raw = [] ↔ Delimiter.Blocks c.entryDelimiter.text raw :=
  split_eq_nil_iff.trans (Delimiter.dropLeading_eq_nil_iff hd c.entryDelimiter.ne_nil)

/-! ## All lists -/

theorem trimList_eq_join (h : split c raw ≠ []) : ∃ k, trimList c raw =
    Text.join c.entryDelimiter.text ((split c raw).map source) ++
      (List.replicate k c.entryDelimiter.text).flatten := by
  obtain ⟨k, hpieces⟩ :=
    Text.exists_dropTrailingEmpty_append ((trimList c raw).splitOn c.entryDelimiter.text)
  rw [← map_source_split] at hpieces
  refine ⟨k, ?_⟩
  rw [← Text.join_append_replicate (by simpa using h), ← hpieces,
    Text.join_splitOn c.entryDelimiter.ne_nil]

theorem exists_listed (c : Config) (raw : Text) :
    ∃ lead k, Listed c raw lead k (split c raw) := by
  obtain ⟨lead, hlead, hraw⟩ :=
    Delimiter.exists_blocks_dropLeading c.entryDelimiter.ne_nil raw
  have hclosed := not_opens_trimList c raw
  change raw = lead ++ trimList c raw at hraw
  by_cases hnil : split c raw = []
  · rw [trimList_of_split_eq_nil hnil, List.append_nil] at hraw
    rw [trimList_of_split_eq_nil hnil] at hclosed
    rw [hnil]
    exact ⟨lead, 0, by simpa [Text.join] using hraw, hlead, hclosed, by simp, by simp, by simp,
      fun _ => hraw⟩
  · obtain ⟨k, htrim⟩ := trimList_eq_join hnil
    rw [htrim] at hraw hclosed
    exact ⟨lead, k, hraw, hlead, hclosed, fun e he => formed_of_mem_split he, source_head_ne_nil,
      source_getLast_ne_nil, fun h => absurd h hnil⟩

/-- **Reading a URL list loses nothing.** Every list is what its entries are read from, with blocks
of entry delimiters before them and entry delimiters after them. Where the entry delimiter holds no
blank, there are no entries, and a run has no result, if and only if the list consists of such
blocks. -/
theorem listed_split (c : Config) (raw : Text) :
    (∃ lead k, Listed c raw lead k (split c raw)) ∧
    ((∀ s ∈ c.entryDelimiter.text, s.isBlank = false) →
      (split c raw = [] ↔ Delimiter.Blocks c.entryDelimiter.text raw) ∧
      ∀ fragments, (Engine.run c (raw :: fragments)).result = .ok none ↔
        Delimiter.Blocks c.entryDelimiter.text raw) := by
  refine ⟨exists_listed c raw, fun hd => ?_⟩
  have hblocks : split c raw = [] ↔ Delimiter.Blocks c.entryDelimiter.text raw :=
    split_eq_nil_iff_blocks hd
  exact ⟨hblocks, fun _ => Engine.result_run_eq_none_iff.trans hblocks⟩

/-- Blocks with several blanks and with none, an empty entry between two others, data that holds a
part of the entry delimiter, and empty entries at the end. -/
def openedList : Text := .ofString "\t<|> <|><|> a <|><|>b<>d<>|><|><|>"

/-- The blocks that open `openedList`, and nothing else. -/
def blockList : Text := .ofString "\t<|> <|><|> "

theorem listed_split_openedList :
    (∃ lead k, Listed .standard openedList lead k (split .standard openedList)) ∧
      split .standard openedList =
        [⟨.ofString "a ", none⟩, ⟨[], none⟩, ⟨.ofString "b", some (.ofString "<>d<>|>")⟩] ∧
      (∀ s ∈ Config.standard.entryDelimiter.text, s.isBlank = false) ∧
      ¬ Delimiter.Blocks Config.standard.entryDelimiter.text openedList ∧
      Delimiter.Blocks Config.standard.entryDelimiter.text blockList ∧
      (Engine.run .standard [blockList]).result = .ok none := by
  have hd : ∀ s ∈ Config.standard.entryDelimiter.text, s.isBlank = false := by decide
  have hblocks : Delimiter.Blocks Config.standard.entryDelimiter.text blockList :=
    ((listed_split .standard blockList).2 hd).1.mp (by decide +kernel)
  refine ⟨(listed_split .standard openedList).1, by decide +kernel, hd, fun h => ?_, hblocks,
    (((listed_split .standard blockList).2 hd).2 []).mpr hblocks⟩
  exact absurd (((listed_split .standard openedList).2 hd).1.mpr h) (by decide +kernel)

/-- **Reading undoes joining.** Where neither the entry delimiter nor the data delimiter overlaps
itself, entries of the form that a URL list gives them are read back from their joined texts, as
long as the first text is not blank and the last one is not empty. -/
theorem split_join_source (hentry : c.entryDelimiter.text.Unbordered)
    (hdata : c.dataDelimiter.text.Unbordered) {es : List Entry} (hne : es ≠ [])
    (hes : ∀ e ∈ es, e.Formed c) (hfirst : (es.head hne).source.isBlank = false)
    (hlast : (es.getLast hne).source ≠ []) :
    split c (Text.join c.entryDelimiter.text (es.map source)) = es := by
  have hapart : ∀ t ∈ es.map source, Text.Apart c.entryDelimiter.text t := by
    intro t ht
    obtain ⟨e, he, rfl⟩ := List.mem_map.mp ht
    exact Text.apart_of_unbordered c.entryDelimiter.ne_nil hentry (hes e he).source
  have hread : ∀ e ∈ es, ofText c e.source = e := fun e he =>
    ofText_source (Text.apart_of_unbordered c.dataDelimiter.ne_nil hdata (hes e he).url)
      (hes e he).data
  rw [split_join (by simpa using hne) hapart (by rwa [List.head_map]) (by rwa [List.getLast_map]),
    map_ofText_map_source hread]

/-- Entries whose texts end and start with parts of the delimiters, with an empty one between
them. -/
def raggedEntries : List Entry :=
  [⟨.ofString " a<", none⟩, ⟨[], none⟩, ⟨.ofString "|b<", some (.ofString "<><")⟩,
    ⟨.ofString ">", none⟩, ⟨.ofString " ", none⟩]

theorem split_join_source_ragged :
    Config.standard.entryDelimiter.text.Unbordered ∧
      Config.standard.dataDelimiter.text.Unbordered ∧
      (∀ e ∈ raggedEntries, e.Formed .standard) ∧
      split .standard (.ofString " a<<|><|>|b<<><<|>><|> ") = raggedEntries := by
  have hentry : Config.standard.entryDelimiter.text.Unbordered := by decide
  have hdata : Config.standard.dataDelimiter.text.Unbordered := by decide
  have hformed : ∀ e ∈ raggedEntries, e.Formed .standard := by
    have hparts : ∀ e ∈ raggedEntries, ¬ Config.standard.dataDelimiter.text <:+: e.url ∧
        (∀ data ∈ e.data, Config.standard.dataDelimiter.text <+: data) ∧
        ¬ Config.standard.entryDelimiter.text <:+: e.source := by decide +kernel
    exact fun e he => ⟨(hparts e he).1, (hparts e he).2.1, (hparts e he).2.2⟩
  exact ⟨hentry, hdata, hformed,
    split_join_source hentry hdata (List.cons_ne_nil _ _) hformed (by decide) (by decide)⟩

end SearchTemplate.Entry
