import SearchTemplate.Proofs.Entry.Rendered

/-!
# The output as a URL list

The output of a run of the standard configuration is in the format of its input. It splits into one
rendered entry for each entry of the URL list, each with the data that it had
(`Engine.run_output_entries`), and where the delimiters of placeholders are plain, a run over the
output gives the output again (`Engine.run_output`).
-/

namespace SearchTemplate

open Entry

namespace Engine

variable {raw output : Text} {fragments : List Text}

theorem unbordered_entryDelimiter : Config.standard.entryDelimiter.text.Unbordered := by decide

/-- What a run makes of an entry of its list: an entry of the same form. -/
structure Rendered (raw : Text) (fragments : List Text) (e e' : Entry) : Prop where
  mem : e ∈ split .standard raw
  rendered : e.RenderedTo (Query.split .standard fragments) e'
  wireMark_not_mem : wireMark ∉ e'.url

theorem Rendered.formed {e e' : Entry} (h : Rendered raw fragments e e') : e'.Formed .standard :=
  h.rendered.formed (formed_of_mem_split h.mem) h.wireMark_not_mem

/-- The output joins the entries that a run makes of those of its list. -/
theorem exists_rendered_of_run (hraw : ¬ Percent.escapeMark <:+: raw)
    (hdelimiters : ∀ e ∈ split .standard raw, ∀ p ∈ e.placeholders, wireMark ∉ p.delimiter)
    (hfragments : ∀ f ∈ fragments, Placeholder.backslash ∉ f)
    (h : (run .standard (raw :: fragments)).result = .ok (some output)) :
    ∃ es : List Entry, es ≠ [] ∧
      List.Forall₂ (Rendered raw fragments) (split .standard raw) es ∧
      output = Text.join Config.standard.entryDelimiter.text (es.map source) := by
  obtain ⟨hsplit, renderings, hall, rfl⟩ := result_run_eq_some_iff.mp h
  have hboth := (List.forall₂_and_left _ _).mpr
    ⟨fun (e : Entry) (he : e ∈ split .standard raw) => he, hall⟩
  have hexists : ∀ (e : Entry) (r : Text), (e ∈ split .standard raw ∧
      (e.render .standard (Query.split .standard fragments)).result = .ok r) →
      ∃ e', Rendered raw fragments e e' ∧ source e' = r := by
    rintro e r ⟨he, hr⟩
    have hmark : ¬ Percent.escapeMark <:+: e.url := fun hm => hraw (hm.trans (url_infix_list he))
    have hqueries : ∀ q ∈ Query.split .standard fragments, Placeholder.backslash ∉ q :=
      fun q hq => Query.backslash_not_mem_of_mem_split hfragments hq
    obtain ⟨e', hrendered, hsource⟩ := exists_renderedTo hmark hqueries hr
    exact ⟨e', ⟨he, hrendered, hrendered.wireMark_not_mem (hdelimiters e he)⟩, hsource⟩
  obtain ⟨es, hes, rfl⟩ := exists_map_of_forall₂ (hboth.imp hexists)
  refine ⟨es, ?_, hes, rfl⟩
  rintro rfl
  exact hsplit (List.forall₂_nil_right_iff.mp hes)

section

variable {es : List Entry} (hes : List.Forall₂ (Rendered raw fragments) (split .standard raw) es)

include hes

theorem formed_of_mem_rendered : ∀ e ∈ es, e.Formed .standard := by
  intro e he
  obtain ⟨_, -, hrendered⟩ := exists_of_mem_forall₂ hes he
  exact hrendered.formed

theorem apart_of_mem_sources :
    ∀ t ∈ es.map source, Text.Apart Config.standard.entryDelimiter.text t := by
  intro t ht
  obtain ⟨e, he, rfl⟩ := List.mem_map.mp ht
  exact Text.apart_of_unbordered Config.standard.entryDelimiter.ne_nil unbordered_entryDelimiter
    (formed_of_mem_rendered hes e he).source

theorem map_ofText_sources : (es.map source).map (ofText .standard) = es := by
  refine map_ofText_map_source fun e he => ?_
  obtain ⟨_, -, hrendered⟩ := exists_of_mem_forall₂ hes he
  exact ofText_source_of_wireMark_not_mem hrendered.formed hrendered.wireMark_not_mem

/-- Neither the first nor the last text of a rendered list is empty. -/
theorem ends_ne_nil (hraw : ¬ Percent.escapeMark <:+: raw) (hne : es ≠ []) :
    (es.head hne).source ≠ [] ∧ (es.getLast hne).source ≠ [] := by
  have hsplit : split .standard raw ≠ [] := fun hnil =>
    hne (List.forall₂_nil_left_iff.mp (hnil ▸ hes))
  have hends : ∀ e e', Rendered raw fragments e e' → e.source ≠ [] → e'.source ≠ [] :=
    fun e e' h => h.rendered.source_ne_nil fun hm => hraw (hm.trans (url_infix_list h.mem))
  exact ⟨hends _ _ (head_of_forall₂ hes hsplit hne) (source_head_ne_nil hsplit),
    hends _ _ (getLast_of_forall₂ hes hsplit hne) (source_getLast_ne_nil hsplit)⟩

end

/-- **The output is a URL list again.** Where no delimiter of a placeholder holds a symbol of the
entry delimiter, the output splits at the entry delimiter into one piece for each entry of the URL
list, and each piece is an entry with the rendered URL and the data that the entry had. -/
theorem run_output_entries (hraw : ¬ Percent.escapeMark <:+: raw)
    (hdelimiters : ∀ e ∈ split .standard raw, ∀ p ∈ e.placeholders, ∀ s ∈ p.delimiter,
      s ∉ Text.ofString "<|>")
    (hfragments : ∀ f ∈ fragments, Placeholder.backslash ∉ f)
    (h : (run .standard (raw :: fragments)).result = .ok (some output)) :
    List.Forall₂ (fun e piece => ∃ url,
        (e.withoutData.render .standard (Query.split .standard fragments)).result = .ok url ∧
          ofText .standard piece = ⟨url, e.data⟩)
      (split .standard raw) (output.splitOn Config.standard.entryDelimiter.text) := by
  have hmark : ∀ e ∈ split .standard raw, ∀ p ∈ e.placeholders, wireMark ∉ p.delimiter :=
    fun e he p hp hmem => hdelimiters e he p hp _ hmem (by decide)
  obtain ⟨es, hne, hes, rfl⟩ := exists_rendered_of_run hraw hmark hfragments h
  rw [Text.splitOn_join Config.standard.entryDelimiter.ne_nil (by simpa using hne)
    (apart_of_mem_sources hes), List.forall₂_map_right_iff]
  refine hes.imp fun e e' he => ⟨e'.url, he.rendered.url, ?_⟩
  rw [ofText_source_of_wireMark_not_mem he.formed he.wireMark_not_mem, ← he.rendered.data]

/-- A list that opens with a delimiter, with an empty entry and with data that ends in a part of a
delimiter. -/
def wireList : Text :=
  .ofString " <|>a|\x7bsearch!U\\--\x7d<>d<><<|><|>b>\x7bsearch!2\\%\x7d<"

def wireFragments : List Text := [.ofString "x y", .ofString "%% é z"]

def wireOutput : Text := .ofString "a%7CX--Y<>d<><<|><|>b%3E%C3%A9%z%3C"

theorem run_wireList :
    (run .standard (wireList :: wireFragments)).result = .ok (some wireOutput) := by
  decide +kernel

theorem run_output_entries_wireList :
    ¬ Percent.escapeMark <:+: wireList ∧
      (∀ e ∈ split .standard wireList, ∀ p ∈ e.placeholders, ∀ s ∈ p.delimiter,
        s ∉ Text.ofString "<|>") ∧
      (∀ f ∈ wireFragments, Placeholder.backslash ∉ f) ∧
      (run .standard (wireList :: wireFragments)).result = .ok (some wireOutput) ∧
      (wireOutput.splitOn Config.standard.entryDelimiter.text).map (ofText .standard) =
        [⟨.ofString "a%7CX--Y", some (.ofString "<>d<><")⟩, ⟨[], none⟩,
          ⟨.ofString "b%3E%C3%A9%z%3C", none⟩] ∧
      List.Forall₂ (fun e piece => ∃ url,
          (e.withoutData.render .standard (Query.split .standard wireFragments)).result = .ok url ∧
            ofText .standard piece = ⟨url, e.data⟩)
        (split .standard wireList) (wireOutput.splitOn Config.standard.entryDelimiter.text) := by
  have hmark : ¬ Percent.escapeMark <:+: wireList := by decide +kernel
  have hdelimiters : ∀ e ∈ split .standard wireList, ∀ p ∈ e.placeholders, ∀ s ∈ p.delimiter,
      s ∉ Text.ofString "<|>" := by decide +kernel
  have hfragments : ∀ f ∈ wireFragments, Placeholder.backslash ∉ f := by decide +kernel
  exact ⟨hmark, hdelimiters, hfragments, run_wireList, by decide +kernel,
    run_output_entries hmark hdelimiters hfragments run_wireList⟩

/-- **A run over its own output changes nothing.** Where the delimiters of placeholders are plain,
a run over the output gives the output again, whatever the fragments are. -/
theorem run_output (hraw : ¬ Percent.escapeMark <:+: raw)
    (hdelimiters : ∀ e ∈ split .standard raw, ∀ p ∈ e.placeholders, ∀ s ∈ p.delimiter,
      s.isPlain = true)
    (hfragments : ∀ f ∈ fragments, Placeholder.backslash ∉ f)
    (h : (run .standard (raw :: fragments)).result = .ok (some output)) (others : List Text) :
    (run .standard (output :: others)).result = .ok (some output) := by
  have hmark : ∀ e ∈ split .standard raw, ∀ p ∈ e.placeholders, wireMark ∉ p.delimiter :=
    fun e he p hp hmem => absurd (hdelimiters e he p hp _ hmem) (by decide)
  obtain ⟨es, hne, hes, rfl⟩ := exists_rendered_of_run hraw hmark hfragments h
  have hplain : ∀ e ∈ es, ∀ s ∈ e.url, s.isPlain = true := by
    intro e' he' s hs
    obtain ⟨e, -, he⟩ := exists_of_mem_forall₂ hes he'
    rcases he.rendered.plain s hs with hplain | ⟨p, hp, hdelimiter⟩
    · exact hplain
    · exact hdelimiters e he.mem p hp s hdelimiter
  have hsources : es.map source ≠ [] := by simpa using hne
  obtain ⟨hfirst, hlast⟩ := ends_ne_nil hes hraw hne
  have hvisible : ((es.map source).head hsources).isBlank = false := by
    have he := List.head_mem hne
    rw [List.head_map]
    exact isBlank_source_of_plain (formed_of_mem_rendered hes _ he) (hplain _ he) hfirst
  have hsplit : split .standard (Text.join Config.standard.entryDelimiter.text (es.map source))
      = es := by
    rw [split_join hsources (apart_of_mem_sources hes) hvisible (by rwa [List.getLast_map]),
      map_ofText_sources hes]
  refine result_run_eq_some_iff.mpr ⟨by rwa [hsplit], es.map source, ?_, rfl⟩
  rw [hsplit, List.forall₂_map_right_iff, List.forall₂_same]
  exact fun e he => result_render_of_plain _ (hplain e he)

theorem run_output_wireList :
    ¬ Percent.escapeMark <:+: wireList ∧
      (∀ e ∈ split .standard wireList, ∀ p ∈ e.placeholders, ∀ s ∈ p.delimiter,
        s.isPlain = true) ∧
      (∀ f ∈ wireFragments, Placeholder.backslash ∉ f) ∧
      (run .standard (wireList :: wireFragments)).result = .ok (some wireOutput) ∧
      (run .standard [wireOutput]).result = .ok (some wireOutput) ∧
      (run .standard (wireOutput :: wireFragments)).result = .ok (some wireOutput) := by
  have hmark : ¬ Percent.escapeMark <:+: wireList := by decide +kernel
  have hdelimiters : ∀ e ∈ split .standard wireList, ∀ p ∈ e.placeholders, ∀ s ∈ p.delimiter,
      s.isPlain = true := by decide +kernel
  have hfragments : ∀ f ∈ wireFragments, Placeholder.backslash ∉ f := by decide +kernel
  exact ⟨hmark, hdelimiters, hfragments, run_wireList,
    run_output hmark hdelimiters hfragments run_wireList [],
    run_output hmark hdelimiters hfragments run_wireList wireFragments⟩

end Engine

end SearchTemplate
