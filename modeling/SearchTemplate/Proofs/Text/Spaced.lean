import SearchTemplate.Proofs.Text.Join
import SearchTemplate.Proofs.Text.Trim
import SearchTemplate.Query.Split

/-!
# Delimiters with blanks around them

A delimiter opens a text where nothing but blanks precedes it (`Delimiter.Opens`). What falls away
at the start of a text is made of such delimiters with the blanks on both sides, one after the
other (`Delimiter.exists_blocks_dropLeading`), and it is as much as possible: no delimiter opens the
rest (`Delimiter.not_opens_dropLeading`). Where the delimiter holds no blank, a text of nothing but
such blocks falls away altogether (`Delimiter.dropLeading_eq_nil_iff`).
-/

namespace SearchTemplate

namespace Pattern

variable {α : Type} {m : Pattern α} {t : Text}

theorem dropLeading_of_misses (h : m.Misses t) : m.dropLeading t = t := by
  cases t with
  | nil => rfl
  | cons s rest =>
    rw [dropLeading, dropFrom]
    split
    · rename_i a n hn
      exact absurd hn (h a n)
    · rfl

theorem misses_dropFrom (m : Pattern α) (k : Nat) (t : Text) :
    m.dropFrom k t = [] ∨ m.Misses (m.dropFrom k t) := by
  fun_induction dropFrom m k t with
  | case1 => exact .inl rfl
  | case2 k s rest ih => exact ih
  | case3 s rest a n _ ih => exact ih
  | case4 s rest h => exact .inr fun a n hn => h a n hn

theorem dropFrom_eq_dropLeading_drop (m : Pattern α) (k : Nat) (t : Text) :
    m.dropFrom k t = m.dropLeading (t.drop k) := by
  induction t generalizing k with
  | nil => cases k <;> rfl
  | cons s rest ih =>
    cases k with
    | zero => rfl
    | succ k => exact ih k

theorem dropLeading_append_of_eq_some {w later : Text} {a : α} (hne : w ≠ [])
    (h : m (w ++ later) = some (a, w.length)) :
    m.dropLeading (w ++ later) = m.dropLeading later := by
  cases w with
  | nil => exact absurd rfl hne
  | cons s w =>
    have hstep : m.dropLeading (s :: (w ++ later)) = m.dropFrom w.length (w ++ later) := by
      rw [dropLeading, dropFrom]
      simp only [List.cons_append, List.length_cons] at h
      rw [h]
    rw [List.cons_append, hstep, dropFrom_eq_dropLeading_drop, List.drop_left]

end Pattern

namespace Delimiter

open Pattern

variable {d t w later : Text}

theorem ne_nil (d : Delimiter) : d.text ≠ [] := by
  intro h
  have hvisible := d.visible
  rw [h] at hvisible
  cases hvisible

/-! ## Delimiters that open a text -/

/-- Nothing but blanks stands before an occurrence of `d`. -/
def Opens (d t : Text) : Prop :=
  ∃ blanks later : Text, blanks.isBlank = true ∧ t = blanks ++ (d ++ later)

theorem opens_cons_iff {s : Symbol} {rest : Text} :
    Opens d (s :: rest) ↔ d <+: s :: rest ∨ (s.isBlank = true ∧ Opens d rest) := by
  constructor
  · rintro ⟨_ | ⟨x, blanks⟩, later, hblank, ht⟩
    · exact .inl ⟨later, ht.symm⟩
    · obtain ⟨rfl, rfl⟩ := List.cons.inj ht
      rw [Text.isBlank_cons, Bool.and_eq_true] at hblank
      exact .inr ⟨hblank.1, blanks, later, hblank.2, rfl⟩
  · rintro (⟨later, ht⟩ | ⟨hs, blanks, later, hblank, rfl⟩)
    · exact ⟨[], later, rfl, ht.symm⟩
    · refine ⟨s :: blanks, later, ?_, rfl⟩
      rw [Text.isBlank_cons, hs, hblank, Bool.and_true]

theorem eq_append_of_afterBlanks? {after : Text} (h : afterBlanks? d t = some after) :
    ∃ blanks : Text, blanks.isBlank = true ∧ t = blanks ++ (d ++ after) := by
  induction t with
  | nil =>
    rw [afterBlanks?] at h
    split at h
    · rename_i hd
      cases h
      exact ⟨[], rfl, by rw [List.isEmpty_iff.mp hd]; rfl⟩
    · cases h
  | cons s rest ih =>
    rw [afterBlanks?] at h
    split at h
    · rename_i found hfound
      cases h
      split at hfound
      · rename_i hs
        obtain ⟨blanks, hblank, rfl⟩ := ih hfound
        refine ⟨s :: blanks, ?_, rfl⟩
        rw [Text.isBlank_cons, hs, hblank, Bool.and_true]
      · cases hfound
    · split at h
      · rename_i hp
        cases h
        refine ⟨[], rfl, ?_⟩
        exact (List.prefix_iff_eq_append.mp (List.isPrefixOf_iff_prefix.mp hp)).symm
      · cases h

theorem afterBlanks?_eq_none_iff : afterBlanks? d t = none ↔ ¬ Opens d t := by
  constructor
  · intro h
    induction t with
    | nil =>
      rintro ⟨blanks, later, -, ht⟩
      have hd : d = [] := by simp at ht; exact ht.2.1
      simp [afterBlanks?, hd] at h
    | cons s rest ih =>
      rw [opens_cons_iff]
      rintro (hp | ⟨hs, hrest⟩)
      · simp only [afterBlanks?, List.isPrefixOf_iff_prefix.mpr hp, if_true] at h
        split at h <;> cases h
      · cases hfound : afterBlanks? d rest with
        | none => exact ih hfound hrest
        | some after => simp [afterBlanks?, hs, hfound] at h
  · intro h
    cases hfound : afterBlanks? d t with
    | none => rfl
    | some after =>
      obtain ⟨blanks, hblank, ht⟩ := eq_append_of_afterBlanks? hfound
      exact absurd ⟨blanks, after, hblank, ht⟩ h

theorem not_opens_of_not_infix (h : ¬ d <:+: t) : ¬ Opens d t := by
  rintro ⟨blanks, later, -, rfl⟩
  exact h ⟨blanks, later, by rw [List.append_assoc]⟩

/-- A text with a visible symbol hides the delimiters after it. -/
theorem not_opens_of_skips (hne : d ≠ []) (hw : w.isBlank = false)
    (h : (literal d).Skips w later) : ¬ Opens d (w ++ later) := by
  rintro ⟨blanks, after, hblank, heq⟩
  rcases List.append_eq_append_iff.mp heq with ⟨rest, rfl, -⟩ | ⟨rest, rfl, hrest⟩
  · simp only [Text.isBlank, List.all_append, Bool.and_eq_true] at hblank
    exact absurd hblank.1 (Bool.eq_false_iff.mp hw)
  · by_cases hnil : rest = []
    · rw [hnil, List.append_nil, hblank] at hw
      cases hw
    · have hmiss := skips_iff.mp h rest (List.suffix_append _ _) hnil
      rw [literal_misses_iff hne, ← hrest] at hmiss
      exact hmiss (List.prefix_append _ _)

/-! ## What falls away at the start -/

/-- Delimiters one after the other, each with any blanks on both sides. -/
inductive Blocks (d : Text) : Text → Prop where
  | nil : Blocks d []
  | cons {before after rest : Text} : before.isBlank = true → after.isBlank = true →
      Blocks d rest → Blocks d (before ++ d ++ after ++ rest)

/-- A span is the block of one delimiter, with all the blanks that follow it. -/
theorem exists_block_of_afterBlanks? {found : Text} (h : afterBlanks? d t = some found) :
    ∃ before after : Text, before.isBlank = true ∧ after.isBlank = true ∧
      t = before ++ d ++ after ++ found.trimStart ∧
      spaced d t = some ((), (before ++ d ++ after).length) := by
  obtain ⟨before, hbefore, ht⟩ := eq_append_of_afterBlanks? h
  obtain ⟨after, hafter, hfound⟩ := Text.exists_trimStart_eq found
  have hsplit : t = before ++ d ++ after ++ found.trimStart := by
    rw [ht, List.append_assoc, List.append_assoc, ← hfound]
  refine ⟨before, after, hbefore, hafter, hsplit, ?_⟩
  have hlength := congrArg List.length hsplit
  rw [List.length_append] at hlength
  rw [spaced, h, Option.map_some, hlength, Nat.add_sub_cancel]

theorem block_ne_nil (hne : d ≠ []) (before after : Text) : before ++ d ++ after ≠ [] :=
  List.append_ne_nil_of_left_ne_nil (List.append_ne_nil_of_right_ne_nil _ hne) _

theorem spaced_misses_iff (hne : d ≠ []) : (spaced d).Misses t ↔ ¬ Opens d t := by
  rw [← afterBlanks?_eq_none_iff]
  cases h : afterBlanks? d t with
  | none => simp [Misses, spaced, h]
  | some found =>
    obtain ⟨before, after, -, -, -, hspan⟩ := exists_block_of_afterBlanks? h
    obtain ⟨n, hn⟩ := Nat.exists_eq_succ_of_ne_zero
      (List.length_eq_zero_iff.not.mpr (block_ne_nil hne before after))
    simp only [reduceCtorEq, iff_false]
    intro hmiss
    exact hmiss () n (by rw [hspan, hn])

theorem dropLeading_of_not_opens (hne : d ≠ []) (h : ¬ Opens d t) :
    (spaced d).dropLeading t = t :=
  dropLeading_of_misses ((spaced_misses_iff hne).mpr h)

theorem not_opens_dropLeading (hne : d ≠ []) (t : Text) : ¬ Opens d ((spaced d).dropLeading t) := by
  rcases misses_dropFrom (spaced d) 0 t with h | h
  · rw [dropLeading, h]
    exact not_opens_of_not_infix (by simpa using hne)
  · exact (spaced_misses_iff hne).mp h

/-- A text starts with a literal symbol, or with the block of a delimiter, which takes all the
blanks after it. -/
theorem spaced_induction (hne : d ≠ []) {P : Text → Prop} (nil : P [])
    (literal : ∀ s rest, ¬ Opens d (s :: rest) → P rest → P (s :: rest))
    (block : ∀ before after rest : Text, before.isBlank = true → after.isBlank = true →
      rest.StartsVisible →
      spaced d (before ++ d ++ after ++ rest) = some ((), (before ++ d ++ after).length) →
      P rest → P (before ++ d ++ after ++ rest)) : ∀ t, P t := by
  -- a block takes several symbols off at once, hence the induction on the length
  intro t
  induction hn : t.length using Nat.strongRecOn generalizing t with
  | _ n ih =>
    cases h : afterBlanks? d t with
    | none =>
      cases t with
      | nil => exact nil
      | cons s rest =>
        have hshort : rest.length < n := by rw [← hn, List.length_cons]; omega
        exact literal s rest (afterBlanks?_eq_none_iff.mp h) (ih _ hshort rest rfl)
    | some found =>
      obtain ⟨before, after, hbefore, hafter, ht, hspan⟩ := exists_block_of_afterBlanks? h
      have hshort : found.trimStart.length < n := by
        have := List.length_pos_iff.mpr (block_ne_nil hne before after)
        rw [← hn, ht, List.length_append]
        omega
      rw [ht] at hspan ⊢
      exact block before after _ hbefore hafter (Text.startsVisible_trimStart found) hspan
        (ih _ hshort _ rfl)

/-- One block after the other falls away, and nothing else does. -/
theorem exists_blocks_dropLeading (hne : d ≠ []) (t : Text) :
    ∃ lead, Blocks d lead ∧ t = lead ++ (spaced d).dropLeading t := by
  induction t using spaced_induction hne with
  | nil => exact ⟨[], .nil, rfl⟩
  | literal s rest h _ => exact ⟨[], .nil, (dropLeading_of_not_opens hne h).symm⟩
  | block before after rest hbefore hafter _ hspan ih =>
    obtain ⟨lead, hlead, hrest⟩ := ih
    refine ⟨before ++ d ++ after ++ lead, .cons hbefore hafter hlead, ?_⟩
    rw [dropLeading_append_of_eq_some (block_ne_nil hne before after) hspan,
      List.append_assoc _ lead, ← hrest]

/-- A block takes the blanks after it along. -/
theorem startsVisible_dropLeading (hne : d ≠ []) (ht : t.StartsVisible) :
    ((spaced d).dropLeading t).StartsVisible := by
  induction t using spaced_induction hne with
  | nil => exact ht
  | literal s rest h _ => rwa [dropLeading_of_not_opens hne h]
  | block before after rest _ _ hrest hspan ih =>
    rw [dropLeading_append_of_eq_some (block_ne_nil hne before after) hspan]
    exact ih hrest

/-! ## Delimiters without blanks -/

section

variable (hd : ∀ s ∈ d, s.isBlank = false)

include hd

/-- The first visible symbol starts the delimiter, so that no other occurrence is found. -/
theorem afterBlanks?_append (hne : d ≠ []) {before : Text} (hbefore : before.isBlank = true)
    (later : Text) : afterBlanks? d (before ++ (d ++ later)) = some later := by
  induction before with
  | nil =>
    obtain ⟨s, rest, rfl⟩ := List.exists_cons_of_ne_nil hne
    have hs : s.isBlank = false := hd s List.mem_cons_self
    have hp : (s :: rest).isPrefixOf (s :: (rest ++ later)) = true :=
      List.isPrefixOf_iff_prefix.mpr (List.prefix_append (s :: rest) later)
    have hdrop : (s :: rest ++ later).drop (s :: rest).length = later := List.drop_left
    rw [List.cons_append] at hdrop
    simp only [List.nil_append, List.cons_append, afterBlanks?, hs, Bool.false_eq_true, if_false,
      hp, if_true, hdrop]
  | cons s before ih =>
    rw [Text.isBlank_cons, Bool.and_eq_true] at hbefore
    rw [List.cons_append, afterBlanks?, if_pos hbefore.1, ih hbefore.2]

/-- The block of a delimiter is a span, which takes the blanks after it along. -/
theorem exists_span_block (hne : d ≠ []) {before after : Text} (hbefore : before.isBlank = true)
    (hafter : after.isBlank = true) (rest : Text) : ∃ block : Text, block ≠ [] ∧
      before ++ d ++ after ++ rest = block ++ rest.trimStart ∧
      spaced d (block ++ rest.trimStart) = some ((), block.length) := by
  have hfound := afterBlanks?_append hd hne hbefore (after ++ rest)
  rw [← List.append_assoc, ← List.append_assoc] at hfound
  obtain ⟨before', after', -, -, ht, hspan⟩ := exists_block_of_afterBlanks? hfound
  rw [Text.trimStart_append hafter] at ht
  rw [ht] at hspan
  exact ⟨_, block_ne_nil hne before' after', ht, hspan⟩

theorem dropLeading_block (hne : d ≠ []) {before after : Text} (hbefore : before.isBlank = true)
    (hafter : after.isBlank = true) (rest : Text) :
    (spaced d).dropLeading (before ++ d ++ after ++ rest)
      = (spaced d).dropLeading rest.trimStart := by
  obtain ⟨block, hblock, ht, hspan⟩ := exists_span_block hd hne hbefore hafter rest
  rw [ht]
  exact dropLeading_append_of_eq_some hblock hspan

theorem trimStart_block (hne : d ≠ []) {before : Text} (hbefore : before.isBlank = true)
    (after rest : Text) :
    (before ++ d ++ after ++ rest).trimStart = [] ++ d ++ after ++ rest := by
  have hstart : (d ++ (after ++ rest)).StartsVisible :=
    (Text.trimmed_of_forall hd).starts.append hne _
  simp only [List.append_assoc, List.nil_append]
  rw [Text.trimStart_append hbefore, hstart.trimStart_eq]

theorem dropLeading_trimStart_of_blocks (hne : d ≠ []) (h : Blocks d t) :
    (spaced d).dropLeading t.trimStart = [] := by
  induction h with
  | nil => rfl
  | cons hbefore hafter _ ih =>
    rw [trimStart_block hd hne hbefore, dropLeading_block hd hne rfl hafter, ih]

/-- A text falls away altogether if and only if it is made of delimiters and blanks in this
way. -/
theorem dropLeading_eq_nil_iff (hne : d ≠ []) : (spaced d).dropLeading t = [] ↔ Blocks d t := by
  constructor
  · intro h
    obtain ⟨lead, hlead, ht⟩ := exists_blocks_dropLeading hne t
    rwa [ht, h, List.append_nil]
  · intro h
    cases h with
    | nil => rfl
    | cons hbefore hafter hrest =>
      rw [dropLeading_block hd hne hbefore hafter, dropLeading_trimStart_of_blocks hd hne hrest]

end

/-- A delimiter that starts with a blank may lose it to the delimiter before. -/
example : (spaced (.ofString " |")).dropLeading (.ofString " | |") = .ofString "|" := by decide

end Delimiter

end SearchTemplate
