import SearchTemplate.Placeholder.Scan
import SearchTemplate.Proofs.Text.Sections

/-!
# The decomposition of a URL

`Scan.Grammatical` states the grammar of a scanned URL without the scanner: how a placeholder is
written, what its parts cannot hold, and what literal text cannot hold. A URL has one
decomposition of this kind, and it is the one that is found (`Scan.ofUrl_eq_iff`).
-/

namespace SearchTemplate

namespace Placeholder

variable {s : Symbol} {t : Text}

/-! ## One placeholder -/

theorem opening_ne_nil : opening ≠ [] := List.cons_ne_nil _ _

theorem cutAt?_eq_some {before after : Text} (h : cutAt? s t = some (before, after)) :
    t = before ++ s :: after ∧ s ∉ before := by
  induction t generalizing before after with
  | nil => cases h
  | cons x rest ih =>
    rw [cutAt?] at h
    split at h
    · rename_i hx
      cases h
      exact ⟨by rw [hx]; rfl, List.not_mem_nil⟩
    · rename_i hx
      obtain ⟨⟨u, v⟩, huv, heq⟩ := Option.map_eq_some_iff.mp h
      cases heq
      obtain ⟨rfl, hu⟩ := ih huv
      exact ⟨rfl, List.not_mem_cons_of_ne_of_not_mem (Ne.symm hx) hu⟩

theorem cutAt?_of_not_mem {before after : Text} (h : s ∉ before) :
    cutAt? s (before ++ s :: after) = some (before, after) := by
  induction before with
  | nil => simp [cutAt?]
  | cons x rest ih =>
    have hx : x ≠ s := (List.ne_of_not_mem_cons h).symm
    rw [List.cons_append, cutAt?, if_neg hx, ih (List.not_mem_of_not_mem_cons h)]
    rfl

/-- Wherever the symbol stands, the cut leaves all that follows it there. -/
theorem cutAt?_append (before after : Text) :
    ∃ u v, cutAt? s (before ++ s :: after) = some (u, v) ∧ after <:+ v := by
  induction before with
  | nil => exact ⟨[], after, by simp [cutAt?], List.suffix_refl _⟩
  | cons x rest ih =>
    by_cases hx : x = s
    · exact ⟨[], rest ++ s :: after, by simp [cutAt?, hx],
        (List.suffix_cons _ _).trans (List.suffix_append _ _)⟩
    · obtain ⟨u, v, huv, hafter⟩ := ih
      exact ⟨x :: u, v, by rw [List.cons_append, cutAt?, if_neg hx, huv]; rfl, hafter⟩

/-- The parts end where they can be told from what follows. -/
structure Body.Valid (b : Body) : Prop where
  options : backslash ∉ b.options
  delimiter : closing ∉ b.delimiter

theorem Body.write_append (b : Body) (later : Text) :
    b.write ++ later
      = opening ++ (b.options ++ backslash :: (b.delimiter ++ closing :: later)) := by
  simp [Body.write]

theorem Body.ofText?_of_valid {b : Body} (hb : b.Valid) (later : Text) :
    Body.ofText? (b.options ++ backslash :: (b.delimiter ++ closing :: later)) = some b := by
  rw [Body.ofText?, cutAt?_of_not_mem hb.options]
  simp only [Option.bind_eq_bind, Option.bind_some]
  rw [cutAt?_of_not_mem hb.delimiter]
  rfl

theorem Body.eq_append_of_ofText? {b : Body} (h : Body.ofText? t = some b) :
    b.Valid ∧ ∃ later, t = b.options ++ backslash :: (b.delimiter ++ closing :: later) := by
  obtain ⟨⟨options, rest⟩, ho, h⟩ := Option.bind_eq_some_iff.mp h
  obtain ⟨⟨delimiter, later⟩, hd, h⟩ := Option.bind_eq_some_iff.mp h
  cases h
  obtain ⟨rfl, hoptions⟩ := cutAt?_eq_some ho
  obtain ⟨rfl, hdelimiter⟩ := cutAt?_eq_some hd
  exact ⟨⟨hoptions, hdelimiter⟩, later, rfl⟩

/-- A backslash and a closing brace anywhere after it are enough for a body. -/
theorem Body.exists_ofText? (x y z : Text) :
    ∃ b, Body.ofText? (x ++ backslash :: (y ++ closing :: z)) = some b := by
  obtain ⟨options, rest, ho, u, rfl⟩ :=
    cutAt?_append (s := backslash) x (y ++ closing :: z)
  obtain ⟨delimiter, later, hd, -⟩ := cutAt?_append (s := closing) (u ++ y) z
  rw [List.append_assoc] at hd
  refine ⟨⟨options, delimiter⟩, ?_⟩
  rw [Body.ofText?, ho]
  simp only [Option.bind_eq_bind, Option.bind_some]
  rw [hd]
  rfl

theorem pattern_opening (t : Text) :
    pattern (opening ++ t) = (Body.ofText? t).map fun b => (b, b.write.length) := by
  rw [pattern, if_pos (List.isPrefixOf_iff_prefix.mpr (List.prefix_append _ _)), List.drop_left]

theorem pattern_of_valid {b : Body} (hb : b.Valid) (later : Text) :
    pattern (b.write ++ later) = some (b, b.write.length) := by
  rw [Body.write_append, pattern_opening, Body.ofText?_of_valid hb]
  rfl

theorem eq_append_of_pattern {b : Body} {n : Nat} (h : pattern t = some (b, n)) :
    b.Valid ∧ n = b.write.length ∧ ∃ later, t = b.write ++ later := by
  rw [pattern] at h
  split at h
  · rename_i hp
    obtain ⟨rest, rfl⟩ := List.isPrefixOf_iff_prefix.mp hp
    rw [List.drop_left] at h
    obtain ⟨b', hb', heq⟩ := Option.map_eq_some_iff.mp h
    cases heq
    obtain ⟨hb, later, rfl⟩ := Body.eq_append_of_ofText? hb'
    exact ⟨hb, rfl, later, (Body.write_append b later).symm⟩
  · cases h

theorem pattern_recognizes : pattern.Recognizes Body.write where
  span h := by
    obtain ⟨-, rfl, later, rfl⟩ := eq_append_of_pattern h
    exact ⟨List.prefix_append _ _, rfl⟩
  ne_nil b := by simp [Body.write]

/-- A text that a placeholder starts, whatever its parts are. -/
def Opens (t : Text) : Prop := ∃ x y z, t = opening ++ (x ++ backslash :: (y ++ closing :: z))

theorem pattern_misses_iff : pattern.Misses t ↔ ¬ Opens t := by
  refine ⟨?_, ?_⟩
  · rintro h ⟨x, y, z, rfl⟩
    obtain ⟨b, hb⟩ := Body.exists_ofText? x y z
    refine h b (b.write.length - 1) ?_
    rw [pattern_opening, hb, Nat.sub_add_cancel (pattern_recognizes.length_pos b)]
    rfl
  · intro h b n hn
    obtain ⟨-, -, later, rfl⟩ := eq_append_of_pattern hn
    exact h ⟨b.options, b.delimiter, later, Body.write_append b later⟩

/-! ## Literal text -/

theorem brace_not_mem_opening_tail : Symbol.char '\x7b' ∉ opening.tail := by decide

/-- A written placeholder gives no opening to the text before it. -/
theorem opening_prefix_of_append {y later : Text} {b : Body} (hy : y ≠ [])
    (h : opening <+: y ++ (b.write ++ later)) : opening <+: y := by
  rcases Text.prefix_or_exists_of_append h with h | ⟨b', hb', hopening, hwritten⟩
  · exact h
  · rw [Body.write_append] at hwritten
    obtain ⟨x, rest, rfl⟩ := List.exists_cons_of_ne_nil hb'
    have hx : x = .char '\x7b' := (List.cons_prefix_cons.mp hwritten).1
    have htail : x :: rest <:+ opening.tail := by
      obtain ⟨z, y, rfl⟩ := List.exists_cons_of_ne_nil hy
      exact ⟨y, by rw [hopening]; rfl⟩
    exact absurd (hx ▸ htail.subset List.mem_cons_self) brace_not_mem_opening_tail

theorem pattern_skips_iff {lit later : Text} {b : Body} :
    pattern.Skips lit (b.write ++ later) ↔ ¬ opening <:+: lit := by
  rw [Pattern.skips_iff]
  refine ⟨?_, ?_⟩
  · rintro h ⟨x, y, rfl⟩
    have hsuffix : opening ++ y <:+ x ++ opening ++ y := ⟨x, by rw [List.append_assoc]⟩
    refine pattern_misses_iff.mp (h _ hsuffix (List.append_ne_nil_of_left_ne_nil opening_ne_nil _))
      ⟨y ++ opening ++ b.options, b.delimiter, later, ?_⟩
    rw [Body.write_append]
    simp only [List.append_assoc]
  · intro h y hy hne
    rw [pattern_misses_iff]
    rintro ⟨u, v, w, huvw⟩
    have hp : opening <+: y ++ (b.write ++ later) := huvw ▸ List.prefix_append _ _
    exact h ((opening_prefix_of_append hne hp).isInfix.trans hy.isInfix)

/-- A placeholder stands somewhere in the text. -/
def Occurs (t : Text) : Prop := ∃ before later, t = before ++ later ∧ Opens later

theorem pattern_skips_nil_iff {lit : Text} : pattern.Skips lit [] ↔ ¬ Occurs lit := by
  simp only [Pattern.skips_iff, List.append_nil, pattern_misses_iff]
  refine ⟨?_, ?_⟩
  · rintro h ⟨x, y, rfl, hy⟩
    refine h y (List.suffix_append _ _) ?_ hy
    rintro rfl
    obtain ⟨_, _, _, hempty⟩ := hy
    cases hempty
  · rintro h y ⟨x, rfl⟩ _ hy
    exact h ⟨x, y, rfl, hy⟩

/-! ## The whole URL -/

/-- A placeholder as the grammar has it, with the literal text before it. -/
structure Formed (p : Placeholder) : Prop where
  source : p.source = opening ++ p.options ++ backslash :: p.delimiter ++ [closing]
  options : backslash ∉ p.options
  delimiter : closing ∉ p.delimiter
  before : ¬ opening <:+: p.before

def body (p : Placeholder) : Body := ⟨p.options, p.delimiter⟩

end Placeholder

namespace Scan

open Placeholder

/-- What the grammar of URLs asks of a scan: well-formed placeholders, numbered from one, and no
placeholder in the text after them. -/
structure Grammatical (scan : Scan) : Prop where
  formed : ∀ p ∈ scan.placeholders, p.Formed
  occurrence : ∀ (i : Nat) p, scan.placeholders[i]? = some p → p.occurrence = i + 1
  trailing : ¬ Occurs scan.trailing

/-- The sections of a URL with these placeholders. -/
def sections : List Placeholder → Text → Sections Body
  | [], trailing => ⟨trailing, []⟩
  | p :: ps, trailing =>
    let later := sections ps trailing
    ⟨p.before, (p.body, later.head) :: later.tail⟩

/-- Placeholders are written as their bodies and numbered from `k` on. -/
def NumberedFrom (k : Nat) : List Placeholder → Prop
  | [] => True
  | p :: ps => p.source = p.body.write ∧ p.occurrence = k ∧ NumberedFrom (k + 1) ps

theorem numberedFrom_iff {k : Nat} {ps : List Placeholder} :
    NumberedFrom k ps ↔ (∀ p ∈ ps, p.source = p.body.write) ∧
      ∀ (i : Nat) p, ps[i]? = some p → p.occurrence = i + k := by
  induction ps generalizing k with
  | nil => simp [NumberedFrom]
  | cons p ps ih =>
    rw [NumberedFrom, ih, List.forall_mem_cons]
    refine ⟨?_, ?_⟩
    · rintro ⟨hsource, hk, hsources, hnum⟩
      refine ⟨⟨hsource, hsources⟩, fun i q hq => ?_⟩
      cases i with
      | zero =>
        cases hq
        rw [hk]
        omega
      | succ i =>
        rw [hnum i q hq]
        push_cast
        omega
    · rintro ⟨⟨hsource, hsources⟩, hnum⟩
      refine ⟨hsource, ?_, hsources, fun i q hq => ?_⟩
      · rw [hnum 0 p rfl]
        omega
      · rw [hnum (i + 1) q hq]
        push_cast
        omega

theorem sections_ofSections (k : Nat) (before : Text) (tail : List (Body × Text)) :
    let scan := ofSections k before tail
    sections scan.placeholders scan.trailing = ⟨before, tail⟩ ∧
      NumberedFrom k scan.placeholders := by
  induction tail generalizing k before with
  | nil => exact ⟨rfl, trivial⟩
  | cons x rest ih =>
    obtain ⟨b, after⟩ := x
    obtain ⟨hsections, hnum⟩ := ih (k + 1) after
    refine ⟨?_, rfl, rfl, hnum⟩
    simp only [ofSections, sections, hsections]
    rfl

theorem ofSections_sections {k : Nat} {ps : List Placeholder} (h : NumberedFrom k ps)
    (trailing : Text) :
    ofSections k (sections ps trailing).head (sections ps trailing).tail = ⟨ps, trailing⟩ := by
  induction ps generalizing k with
  | nil => rfl
  | cons p ps ih =>
    obtain ⟨hsource, hk, hps⟩ := h
    simp only [sections, ofSections, ih hps]
    rw [← hk, ← hsource]
    rfl

theorem text_sections {k : Nat} {ps : List Placeholder} (h : NumberedFrom k ps)
    (trailing : Text) : (sections ps trailing).text Body.write = toUrl ⟨ps, trailing⟩ := by
  induction ps generalizing k with
  | nil => simp [sections, Sections.text, toUrl]
  | cons p ps ih =>
    obtain ⟨hsource, -, hps⟩ := h
    have ih' := ih hps
    simp only [Sections.text, toUrl] at ih' ⊢
    simp only [sections, List.flatMap_cons, List.append_assoc, hsource, ih']

theorem cut_sections_iff {ps : List Placeholder} {trailing : Text} :
    Sections.Cut pattern Body.write (sections ps trailing) ↔
      (∀ p ∈ ps, p.body.Valid ∧ ¬ opening <:+: p.before) ∧ ¬ Occurs trailing := by
  induction ps with
  | nil =>
    have hnil : pattern.Skips trailing [] ↔ ¬ Occurs trailing := pattern_skips_nil_iff
    exact ⟨fun h => ⟨fun p hp => absurd hp List.not_mem_nil, hnil.mp h⟩, fun h => hnil.mpr h.2⟩
  | cons p ps ih =>
    rw [List.forall_mem_cons, and_assoc, ← ih]
    refine ⟨?_, ?_⟩
    · rintro ⟨hskip, hspan, hrest⟩
      exact ⟨⟨(eq_append_of_pattern hspan).1, pattern_skips_iff.mp hskip⟩, hrest⟩
    · rintro ⟨⟨hb, hbefore⟩, hrest⟩
      exact ⟨pattern_skips_iff.mpr hbefore, pattern_of_valid hb _, hrest⟩

theorem grammatical_iff {scan : Scan} :
    scan.Grammatical ↔ NumberedFrom 1 scan.placeholders ∧
      Sections.Cut pattern Body.write (sections scan.placeholders scan.trailing) := by
  rw [numberedFrom_iff, cut_sections_iff]
  refine ⟨?_, ?_⟩
  · intro h
    refine ⟨⟨fun p hp => (h.formed p hp).source, h.occurrence⟩, fun p hp => ?_, h.trailing⟩
    have hformed := h.formed p hp
    exact ⟨⟨hformed.options, hformed.delimiter⟩, hformed.before⟩
  · rintro ⟨⟨hsource, hnum⟩, hparts, htrailing⟩
    refine ⟨fun p hp => ?_, hnum, htrailing⟩
    obtain ⟨hb, hbefore⟩ := hparts p hp
    exact ⟨hsource p hp, hb.options, hb.delimiter, hbefore⟩

theorem toUrl_ofUrl (url : Text) : (ofUrl url).toUrl = url := by
  obtain ⟨hsections, hnum⟩ := sections_ofSections 1 (Sections.scan pattern url).head
    (Sections.scan pattern url).tail
  have htext := Sections.text_scan pattern_recognizes url
  exact (text_sections hnum _).symm.trans (hsections ▸ htext)

theorem grammatical_ofUrl (url : Text) : (ofUrl url).Grammatical := by
  obtain ⟨hsections, hnum⟩ := sections_ofSections 1 (Sections.scan pattern url).head
    (Sections.scan pattern url).tail
  refine grammatical_iff.mpr ⟨hnum, ?_⟩
  rw [ofUrl, hsections]
  exact Sections.cut_scan pattern_recognizes url

theorem ofUrl_toUrl {scan : Scan} (h : scan.Grammatical) : ofUrl scan.toUrl = scan := by
  obtain ⟨hnum, hcut⟩ := grammatical_iff.mp h
  have hscan := Sections.scan_text_of_cut pattern_recognizes hcut
  rw [text_sections hnum] at hscan
  rw [ofUrl, hscan]
  exact ofSections_sections hnum _

/-- **The decomposition of a URL.** The scan of a URL loses nothing and is grammatical, and no
other scan of it is. -/
theorem ofUrl_eq_iff (url : Text) (scan : Scan) :
    ofUrl url = scan ↔ scan.toUrl = url ∧ scan.Grammatical := by
  refine ⟨?_, ?_⟩
  · rintro rfl
    exact ⟨toUrl_ofUrl url, grammatical_ofUrl url⟩
  · rintro ⟨rfl, h⟩
    exact ofUrl_toUrl h

end Scan

end SearchTemplate
