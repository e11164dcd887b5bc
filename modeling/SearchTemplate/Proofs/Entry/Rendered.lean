import SearchTemplate.Proofs.Engine.PlainOutput
import SearchTemplate.Proofs.Entry.Split
import SearchTemplate.Proofs.Percent.Decode

/-!
# Rendered entries

Rendering turns an entry into an entry: its URL is rendered and its data stays
(`Entry.RenderedTo`). Under the standard configuration the new entry has the form that a URL list
gives its entries as well, as long as no delimiter of a placeholder brings the first symbol of the
wire delimiters in (`Entry.RenderedTo.formed`). An entry with a plain URL is rendered to itself
(`Entry.result_render_of_plain`).
-/

namespace SearchTemplate

namespace Percent

variable {u : UnsafeSet} {t : Text}

theorem encode_ne_nil (ht : t ≠ []) : encode u t ≠ [] := by
  obtain ⟨s, rest, rfl⟩ := List.exists_cons_of_ne_nil ht
  rw [encode_cons]
  refine List.append_ne_nil_of_left_ne_nil ?_ _
  by_cases hs : u.covers s = true
  · rw [if_pos hs]
    exact symbolForm_ne_nil s
  · rw [if_neg hs]
    exact List.cons_ne_nil _ _

theorem escape_ne_nil (hmark : ¬ escapeMark <:+: t) (ht : t ≠ []) : escape u t ≠ [] := by
  rw [escape_eq_encode hmark]
  exact encode_ne_nil ht

end Percent

namespace Entry

variable {c : Config} {queries : List Text} {e e' : Entry} {r : Text}

def withoutData (e : Entry) : Entry := ⟨e.url, none⟩

/-- The data takes no part in rendering. -/
theorem result_render_eq_map (hc : c.Encodable) (queries : List Text) (e : Entry) :
    (e.render c queries).result
      = (e.withoutData.render c queries).result.map (· ++ e.data.getD []) := by
  rw [result_render hc, result_render hc]
  show _ = Except.map _ (Except.map _ (e.placeholders.mapM fun p =>
    (renderPlaceholder c queries e.url p).result))
  cases e.placeholders.mapM fun p => (renderPlaceholder c queries e.url p).result with
  | error failure => rfl
  | ok parts => simp [Except.map, withoutData]

/-- A URL is never rendered to nothing: its first symbol belongs to literal text. -/
theorem render_ne_nil (hc : c.Encodable) (hmark : ¬ Percent.escapeMark <:+: e.url)
    (hurl : e.url ≠ []) (h : (e.render c queries).result = .ok r) : r ≠ [] := by
  rw [result_render hc, map_eq_ok_iff] at h
  obtain ⟨parts, hparts, rfl⟩ := h
  refine List.append_ne_nil_of_left_ne_nil ?_ _
  cases hps : e.placeholders with
  | nil =>
    have htrailing := trailing_of_no_placeholders hps
    refine List.append_ne_nil_of_right_ne_nil _ (Percent.escape_ne_nil ?_ ?_)
    · rwa [htrailing]
    · rwa [htrailing]
  | cons p ps =>
    have hp : p ∈ e.placeholders := hps ▸ List.mem_cons_self
    have hfirst : p.occurrence = 1 :=
      (Scan.grammatical_ofUrl e.url).occurrence 0 p (by rw [← placeholders, hps]; rfl)
    rw [mapM_eq_ok_iff, hps] at hparts
    obtain ⟨first, others, hfirstPart, -, rfl⟩ := List.forall₂_cons_left_iff.mp hparts
    obtain ⟨o, ho, rfl⟩ :=
      (result_renderPlaceholder_eq_ok_iff hc (one_le_occurrence hp)).mp hfirstPart
    have hbefore : p.before ≠ [] := fun hnil =>
      Placeholder.read_ok_iff.mp ⟨o, ho⟩ 0 .opensUrl (.opensUrl hfirst hnil)
    have hmarkBefore : ¬ Percent.escapeMark <:+: p.before := fun hm =>
      hmark (hm.trans (before_infix_url hp))
    refine List.append_ne_nil_of_left_ne_nil ?_ _
    rw [List.flatten_cons, List.append_assoc]
    exact List.append_ne_nil_of_left_ne_nil (Percent.escape_ne_nil hmarkBefore hbefore) _

/-! ## The standard configuration -/

/-- `e'` is what rendering makes of `e`. -/
structure RenderedTo (queries : List Text) (e e' : Entry) : Prop where
  url : (e.withoutData.render .standard queries).result = .ok e'.url
  data : e'.data = e.data
  plain : ∀ s ∈ e'.url, s.isPlain = true ∨ ∃ p ∈ e.placeholders, s ∈ p.delimiter

theorem exists_renderedTo (hmark : ¬ Percent.escapeMark <:+: e.url)
    (hqueries : ∀ q ∈ queries, Placeholder.backslash ∉ q)
    (h : (e.render .standard queries).result = .ok r) :
    ∃ e' : Entry, e.RenderedTo queries e' ∧ e'.source = r := by
  rw [result_render_eq_map Config.standard_encodable, map_eq_ok_iff] at h
  obtain ⟨url, hurl, rfl⟩ := h
  obtain ⟨body, hbody, hplain⟩ := rendersPlain_of_render (e := e.withoutData) hmark hqueries hurl
  have heq : url = body := by rw [hbody]; exact List.append_nil body
  exact ⟨⟨url, e.data⟩, ⟨hurl, rfl, heq ▸ hplain⟩, rfl⟩

theorem RenderedTo.source_ne_nil (h : e.RenderedTo queries e')
    (hmark : ¬ Percent.escapeMark <:+: e.url) (hne : e.source ≠ []) : e'.source ≠ [] := by
  by_cases hurl : e.url = []
  · have hdata : e.data.getD [] ≠ [] := by simpa [source, hurl] using hne
    rw [source, h.data]
    exact List.append_ne_nil_of_right_ne_nil _ hdata
  · exact List.append_ne_nil_of_left_ne_nil
      (render_ne_nil (e := e.withoutData) Config.standard_encodable hmark hurl h.url) _

/-- The symbol that both wire delimiters start with. -/
def wireMark : Symbol := .char '<'

theorem RenderedTo.wireMark_not_mem (h : e.RenderedTo queries e')
    (hdelimiters : ∀ p ∈ e.placeholders, wireMark ∉ p.delimiter) : wireMark ∉ e'.url := by
  intro hmem
  rcases h.plain _ hmem with hplain | ⟨p, hp, hdelimiter⟩
  · exact absurd hplain (by decide)
  · exact hdelimiters p hp hdelimiter

theorem apart_of_wireMark_not_mem {t : Text} (ht : wireMark ∉ t) :
    Text.Apart Config.standard.dataDelimiter.text t :=
  Text.apart_of_not_mem (x := wireMark) (by decide) ht

/-- A rendered entry has the form of an entry again. -/
theorem RenderedTo.formed (h : e.RenderedTo queries e') (he : e.Formed .standard)
    (hurl : wireMark ∉ e'.url) : e'.Formed .standard := by
  constructor
  · exact fun hd => hurl (hd.subset List.mem_cons_self)
  · exact fun data hdata => he.data data (h.data ▸ hdata)
  · intro hd
    rw [source, h.data] at hd
    have hdata : Config.standard.entryDelimiter.text <:+: e.data.getD [] :=
      Text.infix_of_infix_append hurl hd
    exact he.source (hdata.trans (List.suffix_append _ _).isInfix)

theorem ofText_source_of_wireMark_not_mem (he : e.Formed .standard) (hurl : wireMark ∉ e.url) :
    ofText .standard e.source = e :=
  ofText_source (apart_of_wireMark_not_mem hurl) he.data

/-- An entry with a plain URL is not blank: its data starts with a visible symbol as well. -/
theorem isBlank_source_of_plain (he : e.Formed .standard)
    (hurl : ∀ s ∈ e.url, s.isPlain = true) (hne : e.source ≠ []) :
    e.source.isBlank = false := by
  have hvisible : ∃ s ∈ e.source, s.isBlank = false := by
    by_cases hnil : e.url = []
    · obtain ⟨data, hdata⟩ : ∃ data, e.data = some data := by
        refine Option.ne_none_iff_exists'.mp fun hnone => hne ?_
        rw [source, hnil, hnone]
        rfl
      have hmem : wireMark ∈ data := (he.data data hdata).subset List.mem_cons_self
      refine ⟨wireMark, ?_, by decide⟩
      rw [source, hdata]
      exact List.mem_append_right _ hmem
    · obtain ⟨s, hs⟩ := List.exists_mem_of_ne_nil _ hnil
      exact ⟨s, List.mem_append_left _ hs, Symbol.isBlank_of_isPlain (hurl s hs)⟩
  obtain ⟨s, hs, hblank⟩ := hvisible
  rw [Text.isBlank, List.all_eq_false]
  exact ⟨s, hs, by simp [hblank]⟩

/-- Plain text holds no placeholder. -/
theorem ofUrl_of_plain {url : Text} (hurl : ∀ s ∈ url, s.isPlain = true) :
    Scan.ofUrl url = ⟨[], url⟩ := by
  have htrailing : ¬ Placeholder.Occurs url := by
    rintro ⟨before, later, rfl, x, y, z, rfl⟩
    have hbrace : Symbol.char '\x7b' ∈ before ++ (Placeholder.opening ++
        (x ++ Placeholder.backslash :: (y ++ Placeholder.closing :: z))) :=
      List.mem_append_right _ List.mem_cons_self
    exact absurd (hurl _ hbrace) (by decide)
  have hgrammatical : Scan.Grammatical ⟨[], url⟩ := ⟨by simp, by simp, htrailing⟩
  exact Scan.ofUrl_toUrl hgrammatical

theorem result_render_of_plain (queries : List Text) (hurl : ∀ s ∈ e.url, s.isPlain = true) :
    (e.render .standard queries).result = .ok e.source := by
  have hscan := ofUrl_of_plain hurl
  rw [result_render Config.standard_encodable, placeholders, hscan]
  show Except.ok ([] ++ Percent.escape _ e.url ++ e.data.getD []) = _
  rw [Percent.escape_of_plain hurl]
  rfl

end Entry

end SearchTemplate
