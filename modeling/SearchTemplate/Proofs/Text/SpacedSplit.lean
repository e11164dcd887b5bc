import SearchTemplate.Proofs.Text.Spaced

/-!
# Splitting at delimiters with blanks around them

Whatever the delimiter is, no piece of such a split holds it, and no piece starts or ends with a
blank where the text does not (`Delimiter.trimmed_of_mem_pieces`). Where the delimiter holds no
blank, pieces are found again however many blanks stand around the delimiters
(`Delimiter.pieces_scan_spread`).
-/

namespace SearchTemplate

namespace Sections

variable {α : Type}

theorem pieces_scan_append {m : Pattern α} {lit later : Text} {ws : List Text}
    (h : m.Skips lit later) (hlater : (scan m later).pieces = [] :: ws) :
    (scan m (lit ++ later)).pieces = lit :: ws := by
  obtain ⟨hhead, htail⟩ := List.cons.inj hlater
  rw [scan_append_of_skips h, pieces, hhead, htail, List.append_nil]

end Sections

namespace Delimiter

open Pattern Sections

variable {d t w : Text}

/-! ## The pieces of any text -/

theorem scan_cons_of_not_opens (hne : d ≠ []) {s : Symbol} {rest : Text}
    (h : ¬ Opens d (s :: rest)) :
    scan (spaced d) (s :: rest) = (scan (spaced d) rest).cons s :=
  scan_cons_of_misses ((spaced_misses_iff hne).mpr h)

theorem head_scan_eq_nil_iff (hne : d ≠ []) (ht : t ≠ []) :
    (scan (spaced d) t).head = [] ↔ Opens d t := by
  constructor
  · intro h
    by_contra hclosed
    obtain ⟨s, rest, rfl⟩ := List.exists_cons_of_ne_nil ht
    rw [scan_cons_of_not_opens hne hclosed] at h
    cases h
  · intro h
    induction t using spaced_induction hne with
    | nil => rfl
    | literal s rest hclosed _ => exact absurd h hclosed
    | block before after rest _ _ _ hspan _ =>
      rw [scan_append_of_eq_some (block_ne_nil hne before after) hspan]
      rfl

theorem not_infix_of_mem_pieces (hne : d ≠ []) :
    ∀ w ∈ (scan (spaced d) t).pieces, ¬ d <:+: w := by
  have hnil : ¬ d <:+: [] := by simpa using hne
  induction t using spaced_induction hne with
  | nil => exact List.forall_mem_singleton.mpr hnil
  | literal s rest hclosed ih =>
    obtain ⟨hhead, htail⟩ := List.forall_mem_cons.mp ih
    rw [scan_cons_of_not_opens hne hclosed, pieces_cons, List.forall_mem_cons]
    refine ⟨fun h => ?_, htail⟩
    rcases List.infix_cons_iff.mp h with hp | hi
    · have hrest : s :: (scan (spaced d) rest).head <+: s :: rest :=
        List.cons_prefix_cons.mpr ⟨rfl, head_scan_isPrefix _ rest⟩
      exact hclosed (opens_cons_iff.mpr (.inl (hp.trans hrest)))
    · exact hhead hi
  | block before after rest _ _ _ hspan ih =>
    rw [scan_append_of_eq_some (block_ne_nil hne before after) hspan, pieces_mark,
      List.forall_mem_cons]
    exact ⟨hnil, ih⟩

/-- A block takes the blanks after it along, so that no piece starts with one but the first. -/
theorem startsVisible_of_mem_tail (hne : d ≠ []) :
    ∀ w ∈ (scan (spaced d) t).tail.map Prod.snd, w.StartsVisible := by
  induction t using spaced_induction hne with
  | nil => simp
  | literal s rest hclosed ih =>
    rw [scan_cons_of_not_opens hne hclosed]
    exact ih
  | block before after rest _ _ hrest hspan ih =>
    rw [scan_append_of_eq_some (block_ne_nil hne before after) hspan]
    exact List.forall_mem_cons.mpr ⟨hrest.of_isPrefix (head_scan_isPrefix _ rest), ih⟩

/-- A block takes the blanks before it along, so that no piece ends with one but the last. -/
theorem endsVisible_of_mem_pieces (hne : d ≠ []) (ht : t.EndsVisible) :
    ∀ w ∈ (scan (spaced d) t).pieces, w.EndsVisible := by
  induction t using spaced_induction hne with
  | nil => exact List.forall_mem_singleton.mpr ht
  | literal s rest hclosed ih =>
    obtain ⟨hhead, htail⟩ := List.forall_mem_cons.mp (ih (ht.of_suffix (List.suffix_cons s rest)))
    rw [scan_cons_of_not_opens hne hclosed, pieces_cons, List.forall_mem_cons]
    refine ⟨?_, htail⟩
    by_cases hnil : (scan (spaced d) rest).head = []
    · rw [hnil]
      by_cases hrest : rest = []
      · rwa [hrest] at ht
      · -- a blank in front of a delimiter would belong to the block
        have hopens := (head_scan_eq_nil_iff hne hrest).mp hnil
        have hs : s.isBlank = false := Bool.eq_false_iff.mpr fun hs =>
          hclosed (opens_cons_iff.mpr (.inr ⟨hs, hopens⟩))
        rintro x hx
        cases hx
        exact hs
    · exact hhead.append hnil [s]
  | block before after rest _ _ _ hspan ih =>
    rw [scan_append_of_eq_some (block_ne_nil hne before after) hspan, pieces_mark,
      List.forall_mem_cons]
    refine ⟨fun s hs => (by cases hs), ih (ht.of_suffix (List.suffix_append _ rest))⟩

theorem trimmed_of_mem_pieces (hne : d ≠ []) (ht : t.Trimmed) :
    ∀ w ∈ (scan (spaced d) t).pieces, w.Trimmed := by
  have hstarts : ∀ w ∈ (scan (spaced d) t).pieces, w.StartsVisible :=
    List.forall_mem_cons.mpr ⟨ht.starts.of_isPrefix (head_scan_isPrefix _ t),
      startsVisible_of_mem_tail hne⟩
  exact fun w hw => ⟨hstarts w hw, endsVisible_of_mem_pieces hne ht.ends w hw⟩

/-! ## Delimiters without blanks -/

theorem Blocks.cons_blank {s : Symbol} (h : Blocks d t) (hs : s.isBlank = true) (ht : t ≠ []) :
    Blocks d (s :: t) := by
  cases h with
  | nil => exact absurd rfl ht
  | @cons before after rest hbefore hafter hrest =>
    have hcons : Text.isBlank (s :: before) = true := by rw [Text.isBlank_cons, hs, hbefore]; rfl
    exact .cons hcons hafter hrest

/-- Delimiters and blanks in any order. -/
inductive Mix (d : Text) : Text → Prop where
  | nil : Mix d []
  | blank {s : Symbol} {t : Text} : s.isBlank = true → Mix d t → Mix d (s :: t)
  | delimiter {t : Text} : Mix d t → Mix d (d ++ t)

/-- The pieces `ws` in a row with one delimiter between neighbours. Any blanks may stand around it,
and at least one does between a piece that is not empty and the delimiter after it. The delimiters
around an empty piece may have blanks of their own, share them, or have none. -/
inductive Spread (d : Text) : List Text → Text → Prop where
  | last (w : Text) : Spread d [w] w
  | cons {w before after rest : Text} {ws : List Text} : before.isBlank = true →
      (w ≠ [] → before ≠ []) → after.isBlank = true → Spread d ws rest →
      Spread d (w :: ws) (w ++ (before ++ d ++ after ++ rest))

theorem Spread.ne_nil {ws : List Text} (h : Spread d ws t) : ws ≠ [] := by
  cases h <;> exact List.cons_ne_nil _ _

theorem Spread.head_isPrefix {ws : List Text} (h : Spread d ws t) : ws.head h.ne_nil <+: t := by
  cases h with
  | last => exact List.prefix_refl _
  | cons => exact List.prefix_append _ _

theorem Spread.getLast_isSuffix {ws : List Text} (h : Spread d ws t) :
    ws.getLast h.ne_nil <:+ t := by
  induction h with
  | last => exact List.suffix_refl _
  | cons _ _ _ hrest ih =>
    rw [List.getLast_cons hrest.ne_nil]
    exact ih.trans ((List.suffix_append _ _).trans (List.suffix_append _ _))

section

variable (hd : ∀ s ∈ d, s.isBlank = false)

include hd

theorem blocks_trimEnd_of_mix (h : Mix d t) : Blocks d t.trimEnd := by
  induction h with
  | nil => exact .nil
  | @blank s t hs _ ih =>
    cases ht : t.isBlank with
    | true =>
      have hblank : Text.isBlank (s :: t) = true := by rw [Text.isBlank_cons, hs, ht]; rfl
      rw [Text.trimEnd_eq_nil_iff.mpr hblank]
      exact .nil
    | false =>
      have hcons : Text.trimEnd (s :: t) = s :: t.trimEnd :=
        Text.trimEnd_append_of_not_isBlank ht [s]
      rw [hcons]
      refine ih.cons_blank hs fun hnil => ?_
      rw [Text.trimEnd_eq_nil_iff.mp hnil] at ht
      cases ht
  | @delimiter t _ ih =>
    rw [Text.trimEnd_append_of_endsVisible (Text.trimmed_of_forall hd).ends]
    have hnil : Text.isBlank [] = true := rfl
    simpa using Blocks.cons hnil hnil ih

/-! ### Around the pieces -/

theorem dropLeading_trimStart_append_of_mix (hne : d ≠ []) {lead : Text} (hlead : Mix d lead)
    (ht : t.StartsVisible) (hclosed : ¬ Opens d t) :
    (spaced d).dropLeading (lead ++ t).trimStart = t := by
  induction hlead with
  | nil => rw [List.nil_append, ht.trimStart_eq, dropLeading_of_not_opens hne hclosed]
  | @blank s lead hs _ ih =>
    rw [List.cons_append, Text.trimStart, List.dropWhile_cons_of_pos hs]
    exact ih
  | @delimiter lead _ ih =>
    have hnil : Text.isBlank [] = true := rfl
    have hblock := trimStart_block hd hne hnil [] (lead ++ t)
    have hdrop := dropLeading_block hd hne hnil hnil (lead ++ t)
    simp only [List.nil_append, List.append_nil] at hblock hdrop
    rw [List.append_assoc, hblock, hdrop, ih]

theorem scan_block (hne : d ≠ []) {before after : Text} (hbefore : before.isBlank = true)
    (hafter : after.isBlank = true) (rest : Text) :
    scan (spaced d) (before ++ d ++ after ++ rest)
      = (scan (spaced d) rest.trimStart).mark () := by
  obtain ⟨block, hblock, ht, hspan⟩ := exists_span_block hd hne hbefore hafter rest
  rw [ht]
  exact scan_append_of_eq_some hblock hspan

theorem scan_trimStart_of_blocks (hne : d ≠ []) (h : Blocks d t) :
    scan (spaced d) t.trimStart = scan (spaced d) t := by
  cases h with
  | nil => rfl
  | cons hbefore hafter _ =>
    rw [trimStart_block hd hne hbefore, scan_block hd hne rfl hafter,
      scan_block hd hne hbefore hafter]

theorem pieces_scan_of_blocks (hne : d ≠ []) (h : Blocks d t) :
    ∃ k, (scan (spaced d) t).pieces = List.replicate (k + 1) [] := by
  induction h with
  | nil => exact ⟨0, rfl⟩
  | cons hbefore hafter hrest ih =>
    obtain ⟨k, hk⟩ := ih
    refine ⟨k + 1, ?_⟩
    rw [scan_block hd hne hbefore hafter, scan_trimStart_of_blocks hd hne hrest, pieces_mark, hk]
    rfl

/-! ### The pieces -/

/-- No delimiter starts in a text without delimiters and goes on after a blank. -/
theorem literal_skips_of_blank (hne : d ≠ []) (hw : ¬ d <:+: w)
    (ht : ∀ s ∈ t.head?, s.isBlank = true) : (literal d).Skips w t := by
  refine literal_skips_of_not_infix hne hw ?_
  rintro y b - hb rfl hlater
  obtain ⟨s, b, rfl⟩ := List.exists_cons_of_ne_nil hb
  have hblank := Text.forall_mem_head?_of_prefix ht hlater s rfl
  rw [hd s (by simp)] at hblank
  cases hblank

theorem spaced_skips_of_blank (hne : d ≠ []) (hw : ¬ d <:+: w) (hends : w.EndsVisible)
    (ht : ∀ s ∈ t.head?, s.isBlank = true) : (spaced d).Skips w t := by
  rw [skips_iff]
  intro y hy hyne
  rw [spaced_misses_iff hne]
  have hvisible : Text.isBlank y = false := (hends.of_suffix hy).isBlank_eq_false hyne
  have hfree : ¬ d <:+: y := fun h => hw (h.trans hy.isInfix)
  exact not_opens_of_skips hne hvisible (literal_skips_of_blank hd hne hfree ht)

/-- Delimiters with blanks around them leave the pieces as they are, and those after the last piece
leave empty ones. -/
theorem pieces_scan_spread (hne : d ≠ []) {ws : List Text} {body trail : Text}
    (hbody : Spread d ws body) (hws : ∀ w ∈ ws, w.Trimmed ∧ ¬ d <:+: w)
    (htrail : Blocks d trail) (hapart : ∀ s ∈ trail.head?, s.isBlank = true) :
    ∃ k, (scan (spaced d) (body ++ trail).trimStart).pieces = ws ++ List.replicate k [] := by
  induction hbody with
  | last w =>
    obtain ⟨hw, hfree⟩ := hws w List.mem_cons_self
    obtain ⟨k, hk⟩ := pieces_scan_of_blocks hd hne htrail
    refine ⟨k, ?_⟩
    by_cases hnil : w = []
    · rw [hnil, List.nil_append, scan_trimStart_of_blocks hd hne htrail, hk]
      rfl
    · rw [(hw.starts.append hnil trail).trimStart_eq]
      exact pieces_scan_append (spaced_skips_of_blank hd hne hfree hw.ends hapart) hk
  | @cons w before after rest ws hbefore hblank hafter _ ih =>
    obtain ⟨⟨hw, hfree⟩, hws⟩ := List.forall_mem_cons.mp hws
    obtain ⟨k, hk⟩ := ih hws
    refine ⟨k, ?_⟩
    have hassoc : before ++ d ++ after ++ rest ++ trail
        = before ++ d ++ after ++ (rest ++ trail) := by rw [List.append_assoc _ rest]
    rw [List.append_assoc, hassoc]
    by_cases hnil : w = []
    · rw [hnil, List.nil_append, trimStart_block hd hne hbefore, scan_block hd hne rfl hafter,
        pieces_mark, hk]
      rfl
    · have hlater : (scan (spaced d) (before ++ d ++ after ++ (rest ++ trail))).pieces
          = [] :: (ws ++ List.replicate k []) := by
        rw [scan_block hd hne hbefore hafter, pieces_mark, hk]
      have hhead : ∀ s ∈ (before ++ d ++ after ++ (rest ++ trail)).head?, s.isBlank = true := by
        obtain ⟨x, before, rfl⟩ := List.exists_cons_of_ne_nil (hblank hnil)
        rw [Text.isBlank_cons, Bool.and_eq_true] at hbefore
        rintro s ⟨⟩
        exact hbefore.1
      rw [(hw.starts.append hnil _).trimStart_eq]
      exact pieces_scan_append (spaced_skips_of_blank hd hne hfree hw.ends hhead) hlater

end

end Delimiter

end SearchTemplate
