import SearchTemplate.Entry.Split
import SearchTemplate.Proofs.Placeholder.Decomposition
import SearchTemplate.Proofs.Text.Split

/-!
# Where the parts of the arguments come from

The URL of an entry stands in the URL list as it is, and so does the literal text of a URL around
its placeholders. A query holds symbols of the fragments and the spaces that join them.
-/

namespace SearchTemplate

variable {c : Config} {raw : Text} {e : Entry}

namespace Entry

/-- The placeholders of the URL of an entry, in order. -/
def placeholders (e : Entry) : List Placeholder := (Scan.ofUrl e.url).placeholders

/-! ## Entries and their URLs -/

theorem ofText_eq (c : Config) (t : Text) :
    ofText c t = ⟨(t.breakOn c.dataDelimiter.text).1,
      if (t.breakOn c.dataDelimiter.text).2 = [] then none
      else some (t.breakOn c.dataDelimiter.text).2⟩ := by
  unfold ofText
  split
  · rename_i url h
    simp [h]
  · rename_i url data hne h
    have hdata : data ≠ [] := hne
    simp [h, hdata]

theorem url_infix_list (he : e ∈ split c raw) : e.url <:+: raw := by
  obtain ⟨w, hw, rfl⟩ := List.mem_map.mp he
  have hpiece : w <:+: trimList c raw :=
    Text.infix_of_mem_splitOn (Text.mem_of_mem_dropTrailingEmpty hw)
  have hlist : trimList c raw <:+: raw := (Pattern.dropFrom_suffix _ _ _).isInfix
  have hurl : (ofText c w).url <+: w := by
    rw [ofText_eq]
    exact ⟨_, Text.breakOn_append w _⟩
  exact hurl.isInfix.trans (hpiece.trans hlist)

/-! ## The literal text of a URL -/

theorem before_infix_url {p : Placeholder} (hp : p ∈ e.placeholders) : p.before <:+: e.url := by
  obtain ⟨ps, qs, hps⟩ := List.append_of_mem hp
  have htext := Scan.toUrl_ofUrl e.url
  rw [Scan.toUrl, show (Scan.ofUrl e.url).placeholders = ps ++ p :: qs from hps] at htext
  rw [List.flatMap_append, List.flatMap_cons] at htext
  refine ⟨ps.flatMap fun p => p.before ++ p.source,
    p.source ++ (qs.flatMap fun p => p.before ++ p.source) ++ (Scan.ofUrl e.url).trailing, ?_⟩
  simpa using htext

theorem trailing_of_no_placeholders (h : e.placeholders = []) :
    (Scan.ofUrl e.url).trailing = e.url := by
  have htext := Scan.toUrl_ofUrl e.url
  rw [placeholders] at h
  rwa [Scan.toUrl, h] at htext

theorem trailing_infix_url (e : Entry) : (Scan.ofUrl e.url).trailing <:+: e.url := by
  have hsuffix : (Scan.ofUrl e.url).trailing <:+ (Scan.ofUrl e.url).toUrl :=
    List.suffix_append _ _
  rw [Scan.toUrl_ofUrl] at hsuffix
  exact hsuffix.isInfix

end Entry

/-! ## Queries -/

theorem Query.mem_of_mem_split {fragments : List Text} {q : Text} {s : Symbol}
    (hq : q ∈ split c fragments) (hs : s ∈ q) : s = .char ' ' ∨ ∃ f ∈ fragments, s ∈ f := by
  have hsource : s ∈ source c fragments := by
    unfold split at hq
    split at hq
    · cases hq
    · have hpiece := Sections.infix_of_mem_pieces (Text.mem_of_mem_dropTrailingEmpty hq)
      exact hpiece.subset hs
  have htrim := (Pattern.dropFrom_suffix _ _ _).subset hsource
  rcases Text.mem_join (Text.mem_of_mem_trim htrim) with h | h
  · exact .inl (List.mem_singleton.mp h)
  · exact .inr h

end SearchTemplate
