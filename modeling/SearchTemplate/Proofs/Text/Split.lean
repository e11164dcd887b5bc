import SearchTemplate.Proofs.Text.Sections
import SearchTemplate.Text.Blank

/-!
# Splitting at a delimiter

The pieces of a split, joined by the delimiter, are the text (`Text.join_splitOn`). Where the
delimiter is one symbol they are the only ones without it (`Text.splitOn_singleton_eq_iff`).
Every piece stands in the text, and so does what is left when an end of the text is taken off.
-/

namespace SearchTemplate

namespace Pattern

variable {d t lit later : Text}

theorem literal_eq_some_iff {n : Nat} :
    literal d t = some ((), n) ↔ d <+: t ∧ n = d.length := by
  unfold literal
  split
  · rename_i h
    have hd := List.isPrefixOf_iff_prefix.mp h
    simp only [Option.some.injEq, Prod.mk.injEq, true_and, hd]
    exact eq_comm
  · rename_i h
    rw [List.isPrefixOf_iff_prefix] at h
    simp [h]

theorem literal_append (d later : Text) : literal d (d ++ later) = some ((), d.length) :=
  literal_eq_some_iff.mpr ⟨List.prefix_append _ _, rfl⟩

theorem literal_recognizes (hd : d ≠ []) : (literal d).Recognizes fun _ => d where
  span h := literal_eq_some_iff.mp h
  ne_nil _ := hd

theorem literal_misses_iff (hd : d ≠ []) : (literal d).Misses t ↔ ¬ d <+: t := by
  have hpos := List.length_pos_iff.mpr hd
  refine ⟨?_, ?_⟩
  · intro h hp
    exact h () (d.length - 1) (literal_eq_some_iff.mpr ⟨hp, by omega⟩)
  · intro h a n hn
    exact h (literal_eq_some_iff.mp hn).1

/-- Where splitting finds no delimiter there is none. -/
theorem not_infix_of_skips (hd : d ≠ []) (h : (literal d).Skips lit later) : ¬ d <:+: lit := by
  rintro ⟨x, y, rfl⟩
  have hsuffix : d ++ y <:+ x ++ d ++ y := ⟨x, by rw [List.append_assoc]⟩
  have hmiss := skips_iff.mp h (d ++ y) hsuffix (by simp [hd])
  rw [List.append_assoc, literal_misses_iff hd] at hmiss
  exact hmiss (List.prefix_append _ _)

/-- The delimiter is not found in a text without it, where it does not go on behind the text. -/
theorem literal_skips_of_not_infix (hd : d ≠ []) (hlit : ¬ d <:+: lit)
    (hjoint : ∀ y b, y ≠ [] → b ≠ [] → d = y ++ b → ¬ b <+: later) :
    (literal d).Skips lit later := by
  rw [skips_iff]
  intro y hy hyne
  rw [literal_misses_iff hd]
  intro hp
  rcases Text.prefix_or_exists_of_append hp with hdy | ⟨b, hb, heq, hlater⟩
  · exact hlit (hdy.isInfix.trans hy.isInfix)
  · exact hjoint y b hyne hb heq hlater

theorem skips_nil_of_not_infix (hd : d ≠ []) (h : ¬ d <:+: lit) : (literal d).Skips lit [] :=
  literal_skips_of_not_infix hd h fun _ _ _ hb _ hp => hb (List.prefix_nil.mp hp)

theorem skips_singleton_iff {x : Symbol} : (literal [x]).Skips lit later ↔ x ∉ lit := by
  refine ⟨?_, ?_⟩
  · intro h hx
    obtain ⟨u, v, rfl⟩ := List.append_of_mem hx
    exact not_infix_of_skips (List.cons_ne_nil _ _) h ⟨u, v, by simp⟩
  · intro h
    rw [skips_iff]
    rintro y hy hne
    rw [literal_misses_iff (List.cons_ne_nil _ _)]
    cases y with
    | nil => exact absurd rfl hne
    | cons z y =>
      rintro ⟨r, hr⟩
      obtain ⟨rfl, -⟩ := List.cons.inj hr
      exact h (hy.subset List.mem_cons_self)

end Pattern

namespace Text

open Pattern

variable {d t w : Text}

/-! ## Joining -/

theorem join_cons (d w : Text) (ws : List Text) :
    join d (w :: ws) = w ++ ws.flatMap (d ++ ·) := by
  induction ws generalizing w with
  | nil => simp [join]
  | cons v ws ih =>
    rw [join, ih, List.flatMap_cons, List.append_assoc, List.append_assoc]
    exact List.cons_ne_nil _ _

theorem mem_join {s : Symbol} {ws : List Text} (h : s ∈ join d ws) :
    s ∈ d ∨ ∃ w ∈ ws, s ∈ w := by
  cases ws with
  | nil => simp [join] at h
  | cons w ws =>
    rw [join_cons, List.mem_append, List.mem_flatMap] at h
    rcases h with h | ⟨v, hv, h⟩
    · exact .inr ⟨w, List.mem_cons_self, h⟩
    · rcases List.mem_append.mp h with h | h
      · exact .inl h
      · exact .inr ⟨v, List.mem_cons_of_mem _ hv, h⟩

/-! ## Pieces of a split -/

theorem infix_of_mem_splitOn (h : w ∈ t.splitOn d) : w <:+: t := Sections.infix_of_mem_pieces h

theorem join_splitOn (hd : d ≠ []) (t : Text) : join d (t.splitOn d) = t := by
  have htext := Sections.text_scan (literal_recognizes hd) t
  rw [splitOn, Sections.pieces, join_cons, List.flatMap_map]
  exact htext

theorem splitOn_of_not_infix (hd : d ≠ []) (h : ¬ d <:+: t) : t.splitOn d = [t] := by
  have hscan : Sections.scan (literal d) t = ⟨t, []⟩ :=
    (Sections.scan_eq_iff (literal_recognizes hd)).mpr
      ⟨by simp [Sections.text], skips_nil_of_not_infix hd h⟩
  rw [splitOn, hscan]
  rfl

/-- A delimiter at the start follows an empty piece. -/
theorem splitOn_append (hd : d ≠ []) (t : Text) : (d ++ t).splitOn d = [] :: t.splitOn d := by
  rw [splitOn, Sections.scan_append_of_eq_some hd (literal_append d t), Sections.pieces_mark]
  rfl

/-- A symbol that no delimiter starts with belongs to the first piece. -/
theorem splitOn_cons (hd : d ≠ []) {s : Symbol} (h : ¬ d <+: s :: t) :
    splitOn (s :: t) d = (t.splitOn d).modifyHead (s :: ·) := by
  rw [splitOn, Sections.scan_cons_of_misses ((literal_misses_iff hd).mpr h), Sections.pieces_cons]
  rfl

theorem pieces_eq_iff {p : Sections Unit} {ws : List Text} :
    p.pieces = w :: ws ↔ p = ⟨w, ws.map fun v => ((), v)⟩ := by
  obtain ⟨head, tail⟩ := p
  refine ⟨?_, ?_⟩
  · intro h
    obtain ⟨rfl, rfl⟩ := List.cons.inj h
    rw [List.map_map]
    exact congrArg _ (List.map_id tail).symm
  · rintro h
    rw [h, Sections.pieces, List.map_map]
    exact congrArg _ (List.map_id ws)

theorem cut_singleton_iff {x : Symbol} {ws : List Text} :
    Sections.CutFrom (literal [x]) (fun _ => [x]) w (ws.map fun v => ((), v)) ↔
      ∀ v ∈ w :: ws, x ∉ v := by
  induction ws generalizing w with
  | nil =>
    rw [List.forall_mem_singleton]
    exact skips_singleton_iff
  | cons v ws ih =>
    have hspan := literal_append [x]
      (Sections.text (fun _ => [x]) ⟨v, ws.map fun v => ((), v)⟩)
    rw [List.forall_mem_cons, ← ih]
    exact ⟨fun h => ⟨skips_singleton_iff.mp h.1, h.2.2⟩,
      fun h => ⟨skips_singleton_iff.mpr h.1, hspan, h.2⟩⟩

/-- The pieces of a split at one symbol are the only ones without the symbol. -/
theorem splitOn_singleton_eq_iff {x : Symbol} {ws : List Text} :
    t.splitOn [x] = w :: ws ↔ t = w ++ ws.flatMap ([x] ++ ·) ∧ ∀ v ∈ w :: ws, x ∉ v := by
  have htext : Sections.text (fun _ => [x]) ⟨w, ws.map fun v => ((), v)⟩
      = w ++ ws.flatMap ([x] ++ ·) := by rw [Sections.text, List.flatMap_map]
  rw [splitOn, pieces_eq_iff, Sections.scan_eq_iff (literal_recognizes (List.cons_ne_nil _ _)),
    Sections.Cut, cut_singleton_iff, htext, eq_comm]

theorem mem_of_mem_erase {s : Symbol} (h : s ∈ t.erase d) : s ∈ t := by
  obtain ⟨w, hw, hs⟩ := List.mem_flatten.mp h
  exact (infix_of_mem_splitOn hw).subset hs

/-! ## Ends of a text and of a list of pieces -/

theorem breakOn_append (t d : Text) : (t.breakOn d).1 ++ (t.breakOn d).2 = t := by
  fun_induction breakOn t d with
  | case1 => rfl
  | case2 => rfl
  | case3 s rest d _ parts ih => exact congrArg (s :: ·) ih

theorem mem_of_mem_dropTrailingEmpty {ws : List Text} (h : w ∈ dropTrailingEmpty ws) :
    w ∈ ws := by
  rw [dropTrailingEmpty, List.mem_reverse] at h
  exact List.mem_reverse.mp ((List.dropWhile_sublist _).subset h)

theorem mem_of_mem_trimEnd {s : Symbol} (h : s ∈ t.trimEnd) : s ∈ t := by
  rw [trimEnd, List.mem_reverse] at h
  exact List.mem_reverse.mp ((List.dropWhile_sublist _).subset h)

theorem mem_of_mem_trim {s : Symbol} (h : s ∈ t.trim) : s ∈ t :=
  (List.dropWhile_sublist _).subset (mem_of_mem_trimEnd h)

end Text

theorem Pattern.dropFrom_suffix {α : Type} (m : Pattern α) (k : Nat) (t : Text) :
    m.dropFrom k t <:+ t := by
  fun_induction dropFrom m k t with
  | case1 => exact List.suffix_refl _
  | case2 k s rest ih => exact ih.trans (List.suffix_cons _ _)
  | case3 s rest a n _ ih => exact ih.trans (List.suffix_cons _ _)
  | case4 => exact List.suffix_refl _

end SearchTemplate
