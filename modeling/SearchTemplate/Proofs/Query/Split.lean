import SearchTemplate.Proofs.Text.SpacedSplit

/-!
# Reading query fragments

Whatever the fragments are, the queries that are read from them are in normal form
(`Query.normal_split`): no blank stands at the ends of a query, no delimiter in it, and neither the
first nor the last query is empty. Where the delimiter holds no blank, queries in normal form are
read back from every text that spreads them out with delimiters and blanks
(`Query.split_of_spread`).
-/

namespace SearchTemplate.Query

open Delimiter

variable {c : Config} {fragments : List Text} {d : Text} {qs : List Text}

/-- The form in which queries are read, where `d` separates them. -/
structure Normal (d : Text) (qs : List Text) : Prop where
  head_ne_nil : ∀ h : qs ≠ [], qs.head h ≠ []
  getLast_ne_nil : ∀ h : qs ≠ [], qs.getLast h ≠ []
  trimmed : ∀ q ∈ qs, q.Trimmed
  not_infix : ∀ q ∈ qs, ¬ d <:+: q

/-! ## The source of the queries -/

theorem trimmed_source (c : Config) (fragments : List Text) : (source c fragments).Trimmed where
  starts := startsVisible_dropLeading c.queryDelimiter.ne_nil (Text.trimmed_trim _).starts
  ends := (Text.trimmed_trim _).ends.of_suffix (Pattern.dropFrom_suffix _ _ _)

theorem not_opens_source (c : Config) (fragments : List Text) :
    ¬ Opens c.queryDelimiter.text (source c fragments) :=
  not_opens_dropLeading c.queryDelimiter.ne_nil _

theorem split_eq (c : Config) (fragments : List Text) :
    split c fragments = Text.dropTrailingEmpty
      (Sections.scan (spaced c.queryDelimiter.text) (source c fragments)).pieces := by
  rw [split]
  split
  · rename_i h
    rw [h]
    rfl
  · rfl

/-- **Queries are read in normal form.** Whatever the delimiter and the fragments are, neither the
first nor the last query is empty, and no query starts or ends with a blank or holds the
delimiter. -/
theorem normal_split (c : Config) (fragments : List Text) :
    Normal c.queryDelimiter.text (split c fragments) := by
  have hne := c.queryDelimiter.ne_nil
  have hmem : ∀ q ∈ split c fragments, q ∈ (Sections.scan (spaced c.queryDelimiter.text)
      (source c fragments)).pieces := fun q hq =>
    Text.mem_of_mem_dropTrailingEmpty (split_eq c fragments ▸ hq)
  constructor
  · intro h
    have hstart := Text.dropTrailingEmpty_prefix
      (Sections.scan (spaced c.queryDelimiter.text) (source c fragments)).pieces
    have hsource : source c fragments ≠ [] := by
      intro hnil
      rw [split_eq, hnil] at h
      exact h rfl
    rw [← split_eq] at hstart
    rw [hstart.head h]
    exact fun hnil => not_opens_source c fragments ((head_scan_eq_nil_iff hne hsource).mp hnil)
  · intro h
    simp only [split_eq] at h ⊢
    exact Text.getLast_dropTrailingEmpty_ne_nil h
  · exact fun q hq => trimmed_of_mem_pieces hne (trimmed_source c fragments) q (hmem q hq)
  · exact fun q hq => not_infix_of_mem_pieces hne q (hmem q hq)

/-- A delimiter with a blank is found again only where the one before leaves that blank. -/
example : split { Config.standard with
      queryDelimiter := ⟨.ofString " |", by decide⟩
      entry_ne_query := by decide
      data_ne_query := by decide } [.ofString "a", .ofString "| |b  |", .ofString "c |"] =
    [.ofString "a", .ofString "|b", .ofString "c"] := by
  decide +kernel

/-! ## Queries that are spread out -/

section

variable {lead body trail : Text}

theorem body_ne_nil (hqs : Normal d qs) (hbody : Spread d qs body) : body ≠ [] := by
  rintro rfl
  exact hqs.head_ne_nil hbody.ne_nil (List.prefix_nil.mp hbody.head_isPrefix)

/-- The first query is at the start of the text and the last one at its end. -/
theorem trimmed_body (hqs : Normal d qs) (hbody : Spread d qs body) : body.Trimmed := by
  have hnil := hbody.ne_nil
  constructor
  · obtain ⟨later, hlater⟩ := hbody.head_isPrefix
    rw [← hlater]
    exact (hqs.trimmed _ (List.head_mem hnil)).starts.append (hqs.head_ne_nil hnil) later
  · obtain ⟨before, hbefore⟩ := hbody.getLast_isSuffix
    rw [← hbefore]
    exact (hqs.trimmed _ (List.getLast_mem hnil)).ends.append (hqs.getLast_ne_nil hnil) before

/-- **Reading undoes spreading out.** Where the query delimiter holds no blank, queries in normal
form are read back from every text that spreads them out, whatever mix of delimiters and blanks
stands before them, and whatever mix stands after them if it does not start with a delimiter. -/
theorem split_of_spread (hd : ∀ s ∈ c.queryDelimiter.text, s.isBlank = false)
    (hqs : Normal c.queryDelimiter.text qs) (hlead : Mix c.queryDelimiter.text lead)
    (hbody : Spread c.queryDelimiter.text qs body) (htrail : Mix c.queryDelimiter.text trail)
    (hapart : ∀ s ∈ trail.head?, s.isBlank = true)
    (h : Text.join space fragments = lead ++ (body ++ trail)) : split c fragments = qs := by
  have hne := c.queryDelimiter.ne_nil
  have hbodyNe := body_ne_nil hqs hbody
  have hstart := (trimmed_body hqs hbody).starts.append hbodyNe trail.trimEnd
  obtain ⟨k, hk⟩ := pieces_scan_spread hd hne hbody
    (fun q hq => ⟨hqs.trimmed q hq, hqs.not_infix q hq⟩) (blocks_trimEnd_of_mix hd htrail)
    (Text.forall_mem_head?_of_prefix hapart (Text.trimEnd_isPrefix trail))
  rw [hstart.trimStart_eq] at hk
  have hclosed : ¬ Opens c.queryDelimiter.text (body ++ trail.trimEnd) := by
    rw [← head_scan_eq_nil_iff hne (List.append_ne_nil_of_left_ne_nil hbodyNe _)]
    obtain ⟨q, qs, rfl⟩ := List.exists_cons_of_ne_nil hbody.ne_nil
    rw [(List.cons.inj hk).1]
    exact hqs.head_ne_nil hbody.ne_nil
  have hsource : source c fragments = body ++ trail.trimEnd := by
    rw [source, h, Text.trim_append (trimmed_body hqs hbody) hbodyNe,
      ← Text.trimStart_append_of_startsVisible hstart,
      dropLeading_trimStart_append_of_mix hd hne hlead hstart hclosed]
  rw [split_eq, hsource, hk, Text.dropTrailingEmpty_append_replicate,
    Text.dropTrailingEmpty_of_getLast hqs.getLast_ne_nil]

end

/-- Fragments with delimiters right after one another before the first query, an empty query whose
delimiters share their only blank, and delimiters after the last query. -/
def spreadFragments : List Text :=
  [.ofString "\t%%", .ofString "%%%% a b\u00a0%%", .ofString "%%  %c% \n%%", .ofString " %%"]

def spreadLead : Text := .ofString "\t%% %%%% "

def spreadBody : Text := .ofString "a b\u00a0%% %%  %c%"

def spreadTrail : Text := .ofString " \n%%  %%"

def spreadQueries : List Text := [.ofString "a b", [], .ofString "%c%"]

theorem split_of_spread_sharedBlank :
    (∀ s ∈ Config.standard.queryDelimiter.text, s.isBlank = false) ∧
      Normal Config.standard.queryDelimiter.text spreadQueries ∧
      Mix Config.standard.queryDelimiter.text spreadLead ∧
      Spread Config.standard.queryDelimiter.text spreadQueries spreadBody ∧
      Mix Config.standard.queryDelimiter.text spreadTrail ∧
      Text.join space spreadFragments = spreadLead ++ (spreadBody ++ spreadTrail) ∧
      split .standard spreadFragments = spreadQueries := by
  have hd : ∀ s ∈ Config.standard.queryDelimiter.text, s.isBlank = false := by decide
  have hqs : Normal Config.standard.queryDelimiter.text spreadQueries :=
    ⟨by decide, by decide, by decide +kernel, by decide +kernel⟩
  have hlead : Mix Config.standard.queryDelimiter.text spreadLead :=
    .blank rfl (.delimiter (.blank rfl (.delimiter (.delimiter (.blank rfl .nil)))))
  have hwide : Text.isBlank (.ofString "\u00a0") = true := rfl
  have hone : Text.isBlank (.ofString " ") = true := rfl
  have htwo : Text.isBlank (.ofString "  ") = true := rfl
  have hnone : Text.isBlank [] = true := rfl
  have hbody : Spread Config.standard.queryDelimiter.text spreadQueries spreadBody :=
    .cons hwide (by decide) hone (.cons hnone (by decide) htwo (.last _))
  have htrail : Mix Config.standard.queryDelimiter.text spreadTrail :=
    .blank rfl (.blank rfl (.delimiter (.blank rfl (.blank rfl (.delimiter .nil)))))
  have hjoin : Text.join space spreadFragments = spreadLead ++ (spreadBody ++ spreadTrail) := by
    decide +kernel
  exact ⟨hd, hqs, hlead, hbody, htrail, hjoin,
    split_of_spread hd hqs hlead hbody htrail (by decide) hjoin⟩

end SearchTemplate.Query
