import SearchTemplate.Proofs.Engine.Rejection
import SearchTemplate.Proofs.Entry.Parts
import SearchTemplate.Proofs.Percent.Plain
import SearchTemplate.Proofs.Query.EscapeMark
import SearchTemplate.Proofs.Query.Transform

/-!
# What a run may write

Without escape marks in the URL list and backslashes in the fragments, a run of the standard
configuration writes plain symbols, the delimiters of placeholders and the data of the entries,
and nothing else (`Engine.run_standard_plain`). The literal text and the queries are followed from
the arguments to the place where they are escaped: neither the cutting of the arguments nor a
transformation brings a backslash in.
-/

namespace SearchTemplate

/-- Upper case makes no backslash, so that it cannot complete an escape mark. -/
theorem Symbol.ne_backslash_of_mem_uppercase (s : Symbol) (h : s ≠ Placeholder.backslash) :
    ∀ x ∈ s.uppercase, x ≠ Placeholder.backslash := by
  rintro x hx rfl
  exact h (Query.caseless_backslash.eq_of_mem s hx)

theorem Query.backslash_not_mem_transform (o : Options) {q : Text}
    (hq : Placeholder.backslash ∉ q) : Placeholder.backslash ∉ transform o q := by
  have hne : ∀ s ∈ q, s ≠ Placeholder.backslash := by
    rintro s hs rfl
    exact hq hs
  exact fun h => forall_mem_transform Symbol.ne_backslash_of_mem_uppercase o hne _ h rfl

theorem Query.backslash_not_mem_of_mem_split {c : Config} {fragments : List Text} {q : Text}
    (hfragments : ∀ f ∈ fragments, Placeholder.backslash ∉ f) (hq : q ∈ split c fragments) :
    Placeholder.backslash ∉ q := by
  intro h
  rcases mem_of_mem_split hq h with hspace | ⟨f, hf, hmem⟩
  · exact absurd hspace (by decide)
  · exact hfragments f hf hmem

namespace Entry

variable {queries : List Text} {e : Entry} {r : Text}

/-- The rendering is that of a URL with plain symbols and delimiters only, with the data after
it. -/
def RendersPlain (e : Entry) (rendering : Text) : Prop :=
  ∃ body, rendering = body ++ e.data.getD [] ∧
    ∀ s ∈ body, s.isPlain = true ∨ ∃ p ∈ e.placeholders, s ∈ p.delimiter

theorem plain_of_renderPlaceholder {url : Text} {p : Placeholder} (hp : 1 ≤ p.occurrence)
    (hbefore : ¬ Percent.escapeMark <:+: p.before)
    (hqueries : ∀ q ∈ queries, Placeholder.backslash ∉ q)
    (h : (renderPlaceholder .standard queries url p).result = .ok r) :
    ∀ s ∈ r, s.isPlain = true ∨ s ∈ p.delimiter := by
  cases hread : p.read .standard with
  | error f =>
    rw [renderPlaceholder_of_error hread] at h
    cases h
  | ok o =>
    rw [renderPlaceholder_of_ok Config.standard_encodable hread hp rfl] at h
    cases h
    intro s hs
    rcases List.mem_append.mp hs with hs | hs
    · exact .inl (Percent.isPlain_of_mem_escape hbefore hs)
    · cases hquery : queries[(Query.index p o).toNat]? with
      | none =>
        rw [hquery] at hs
        cases hs
      | some q =>
        rw [hquery] at hs
        have hq := hqueries q (List.mem_of_getElem? hquery)
        exact Query.isPlain_or_mem_of_mem_render (Query.backslash_not_mem_transform o hq) hs

theorem rendersPlain_of_render (hurl : ¬ Percent.escapeMark <:+: e.url)
    (hqueries : ∀ q ∈ queries, Placeholder.backslash ∉ q)
    (h : (e.render .standard queries).result = .ok r) : e.RendersPlain r := by
  rw [result_render Config.standard_encodable, map_eq_ok_iff] at h
  obtain ⟨parts, hparts, rfl⟩ := h
  refine ⟨_, rfl, fun s hs => ?_⟩
  rcases List.mem_append.mp hs with hs | hs
  · obtain ⟨part, hpart, hs⟩ := List.mem_flatten.mp hs
    obtain ⟨p, hp, hrender⟩ := exists_of_mem_mapM hparts hpart
    have hbefore : ¬ Percent.escapeMark <:+: p.before := fun hmark =>
      hurl (hmark.trans (before_infix_url hp))
    rcases plain_of_renderPlaceholder (one_le_occurrence hp) hbefore hqueries hrender s hs
      with h | h
    · exact .inl h
    · exact .inr ⟨p, hp, h⟩
  · have htrailing : ¬ Percent.escapeMark <:+: (Scan.ofUrl e.url).trailing := fun hmark =>
      hurl (hmark.trans (trailing_infix_url e))
    exact .inl (Percent.isPlain_of_mem_escape htrailing hs)

end Entry

namespace Engine

/-- **No unsafe symbol gets into a rendered URL.** With no escape mark in the URL list and no
backslash in the fragments, a run that succeeds joins one rendering for each entry, and each is
made of plain symbols and of delimiters of the entry's placeholders, up to the data. -/
theorem run_standard_plain {raw : Text} {fragments : List Text} {output : Option Text}
    (hraw : ¬ Percent.escapeMark <:+: raw)
    (hfragments : ∀ f ∈ fragments, Placeholder.backslash ∉ f)
    (h : (run .standard (raw :: fragments)).result = .ok output) :
    ∃ renderings : List Text,
      output = (if renderings = [] then none
        else some (Text.join Config.standard.entryDelimiter.text renderings)) ∧
      List.Forall₂ (fun (e : Entry) rendering =>
          (e.render .standard (Query.split .standard fragments)).result = .ok rendering ∧
            e.RendersPlain rendering)
        (Entry.split .standard raw) renderings := by
  by_cases hnil : Entry.split .standard raw = []
  · rw [result_run_of_nil hnil] at h
    cases h
    exact ⟨[], rfl, hnil ▸ .nil⟩
  · rw [result_run_of_ne_nil hnil, map_eq_ok_iff] at h
    obtain ⟨renderings, hrenderings, rfl⟩ := h
    have hall := mapM_eq_ok_iff.mp hrenderings
    have hne : renderings ≠ [] := by
      rintro rfl
      exact hnil (List.forall₂_nil_right_iff.mp hall)
    refine ⟨renderings, (if_neg hne).symm, ?_⟩
    have hboth := (List.forall₂_and_left _ _).mpr
      ⟨fun (e : Entry) (he : e ∈ Entry.split .standard raw) => he, hall⟩
    refine hboth.imp ?_
    rintro e rendering ⟨he, hrender⟩
    refine ⟨hrender, Entry.rendersPlain_of_render ?_ ?_ hrender⟩
    · exact fun hmark => hraw (hmark.trans (Entry.url_infix_list he))
    · exact fun q hq => Query.backslash_not_mem_of_mem_split hfragments hq

/-- Two entries, the first with data and with letters that upper case makes longer. -/
def capitalList : Text :=
  .ofString "a'b\x7bsearch!U\\é>\x7d<>'d<|>\x7b\x7bsearch!2!R\\-_\x7d ~"

def capitalFragments : List Text := [.ofString "ﬁn ß%%", Text.ofString "y " ++ [.stray 0xFF]]

theorem run_standard_plain_capitals :
    ¬ Percent.escapeMark <:+: capitalList ∧
      (∀ f ∈ capitalFragments, Placeholder.backslash ∉ f) ∧
      (run .standard (capitalList :: capitalFragments)).result =
        .ok (some (.ofString "a%27bFINé>SS<>'d<|>%7B%FF-_y%20%7E")) ∧
      ∃ renderings : List Text, List.Forall₂ (fun (e : Entry) rendering => e.RendersPlain rendering)
        (Entry.split .standard capitalList) renderings := by
  have hlist : ¬ Percent.escapeMark <:+: capitalList := by decide +kernel
  have hfragments : ∀ f ∈ capitalFragments, Placeholder.backslash ∉ f := by decide +kernel
  have hrun : (run .standard (capitalList :: capitalFragments)).result =
      .ok (some (.ofString "a%27bFINé>SS<>'d<|>%7B%FF-_y%20%7E")) := by decide +kernel
  obtain ⟨renderings, -, hplain⟩ := run_standard_plain hlist hfragments hrun
  exact ⟨hlist, hfragments, hrun, renderings, hplain.imp fun _ _ h => h.2⟩

end Engine

end SearchTemplate
