import Mathlib.Data.List.DropRight
import Mathlib.Data.List.Infix
import SearchTemplate.Proofs.Text.Split

/-!
# Splitting what was joined

`Text.Apart d w`: no occurrence of `d` starts inside `w`, not even one that ends in a `d` written
after it. Splitting undoes joining where the delimiter stands apart from every piece
(`Text.splitOn_join`). It does so if it has a symbol that the pieces do not hold
(`Text.apart_of_not_mem`), or if it does not overlap itself and occurs in no piece
(`Text.apart_of_unbordered`). Searching for the first occurrence is described in the same terms.
-/

namespace SearchTemplate.Text

open Pattern

variable {d t w : Text}

/-- No occurrence of `d` starts inside `w` where `d` follows it. -/
def Apart (d w : Text) : Prop := ∀ later, (literal d).Skips w (d ++ later)

/-- What `d` starts with and ends with is empty or all of `d`. -/
def Unbordered (d : Text) : Prop := ∀ b, b <+: d → b <:+ d → b = [] ∨ b = d

instance (d : Text) : Decidable d.Unbordered :=
  decidable_of_iff (∀ b ∈ d.inits, b <:+ d → b = [] ∨ b = d)
    (by simp only [Unbordered, List.mem_inits])

theorem apart_of_not_mem {x : Symbol} (hd : x ∈ d) (hw : x ∉ w) : Apart d w := by
  have hne : d ≠ [] := List.ne_nil_of_mem hd
  obtain ⟨u, v, rfl, hu⟩ := List.eq_append_cons_of_mem hd
  intro later
  rw [skips_iff]
  intro y hy hyne
  rw [literal_misses_iff hne]
  rintro ⟨r, hr⟩
  -- the first `x` on the left stands in the delimiter, and on the right after all of `y`
  have hidx := congrArg (List.idxOf x) hr
  have hyu : x ∉ y ++ u := fun h => (List.mem_append.mp h).elim (fun h => hw (hy.subset h)) hu
  rw [List.append_assoc, List.append_assoc, ← List.append_assoc y, List.idxOf_append_of_notMem hu,
    List.idxOf_append_of_notMem hyu] at hidx
  simp only [List.cons_append, List.idxOf_cons_self, List.length_append] at hidx
  have hpos := List.length_pos_iff.mpr hyne
  omega

theorem apart_of_unbordered (hne : d ≠ []) (hd : d.Unbordered) (hw : ¬ d <:+: w) : Apart d w := by
  refine fun later => literal_skips_of_not_infix hne hw ?_
  rintro y b hy hb rfl hlater
  -- an occurrence would end with `b`, which the delimiter after the text starts with
  have hpos := List.length_pos_iff.mpr hy
  have hshort : b.length < (y ++ b).length := by rw [List.length_append]; omega
  have hborder : b <+: y ++ b :=
    List.prefix_of_prefix_length_le hlater (List.prefix_append _ _) hshort.le
  rcases hd b hborder (List.suffix_append _ _) with hnil | heq
  · exact hb hnil
  · have hsame := congrArg List.length heq
    omega

theorem Apart.skips_nil (hne : d ≠ []) (h : Apart d w) : (literal d).Skips w [] :=
  skips_nil_of_not_infix hne (not_infix_of_skips hne (h []))

/-! ## Splitting -/

theorem cut_of_apart {ws : List Text} (hne : d ≠ []) (h : ∀ v ∈ w :: ws, Apart d v) :
    Sections.CutFrom (literal d) (fun _ => d) w (ws.map fun v => ((), v)) := by
  induction ws generalizing w with
  | nil => exact (h w List.mem_cons_self).skips_nil hne
  | cons v ws ih =>
    obtain ⟨hw, hws⟩ := List.forall_mem_cons.mp h
    exact ⟨hw _, literal_append d _, ih hws⟩

/-- Splitting undoes joining. -/
theorem splitOn_join {ws : List Text} (hne : d ≠ []) (hws : ws ≠ []) (h : ∀ v ∈ ws, Apart d v) :
    (join d ws).splitOn d = ws := by
  obtain ⟨w, ws, rfl⟩ := List.exists_cons_of_ne_nil hws
  rw [splitOn, pieces_eq_iff, Sections.scan_eq_iff (literal_recognizes hne)]
  refine ⟨?_, cut_of_apart hne h⟩
  rw [Sections.text, List.flatMap_map, join_cons]

theorem not_infix_of_cut {tail : List (Unit × Text)} (hne : d ≠ [])
    (h : Sections.CutFrom (literal d) (fun _ => d) w tail) :
    ∀ v ∈ w :: tail.map Prod.snd, ¬ d <:+: v := by
  induction tail generalizing w with
  | nil =>
    rw [List.map_nil, List.forall_mem_singleton]
    exact not_infix_of_skips hne h
  | cons x tail ih =>
    rw [List.map_cons, List.forall_mem_cons]
    exact ⟨not_infix_of_skips hne h.1, ih h.2.2⟩

theorem not_infix_of_mem_splitOn (hne : d ≠ []) (h : w ∈ t.splitOn d) : ¬ d <:+: w :=
  not_infix_of_cut hne (Sections.cut_scan (literal_recognizes hne) t) w h

theorem splitOn_ne_nil (t d : Text) : t.splitOn d ≠ [] := List.cons_ne_nil _ _

/-! ## Empty pieces at the end -/

theorem dropTrailingEmpty_eq_rdropWhile (ws : List Text) :
    dropTrailingEmpty ws = ws.rdropWhile List.isEmpty := rfl

theorem dropTrailingEmpty_prefix (ws : List Text) : dropTrailingEmpty ws <+: ws :=
  List.rdropWhile_prefix List.isEmpty ws

theorem dropTrailingEmpty_of_getLast {ws : List Text} (h : ∀ hws, ws.getLast hws ≠ []) :
    dropTrailingEmpty ws = ws := by
  rw [dropTrailingEmpty_eq_rdropWhile, List.rdropWhile_eq_self_iff]
  intro hws hempty
  exact h hws (List.isEmpty_iff.mp hempty)

theorem dropTrailingEmpty_append_replicate (ws : List Text) (k : Nat) :
    dropTrailingEmpty (ws ++ List.replicate k []) = dropTrailingEmpty ws := by
  induction k with
  | zero => rw [List.replicate_zero, List.append_nil]
  | succ k ih =>
    rw [List.replicate_succ', ← List.append_assoc, dropTrailingEmpty_eq_rdropWhile,
      List.rdropWhile_concat_pos _ _ _ rfl]
    exact ih

theorem getLast_dropTrailingEmpty_ne_nil {ws : List Text} (h : dropTrailingEmpty ws ≠ []) :
    (dropTrailingEmpty ws).getLast h ≠ [] := fun hnil =>
  List.rdropWhile_last_not List.isEmpty ws h (List.isEmpty_iff.mpr hnil)

theorem exists_dropTrailingEmpty_append (ws : List Text) :
    ∃ k, ws = dropTrailingEmpty ws ++ List.replicate k [] := by
  have hempty := List.eq_replicate_of_mem (l := ws.rtakeWhile List.isEmpty) fun _ hw =>
    List.isEmpty_iff.mp (List.mem_rtakeWhile_imp hw)
  refine ⟨(ws.rtakeWhile List.isEmpty).length, ?_⟩
  rw [← hempty, dropTrailingEmpty_eq_rdropWhile, List.rdropWhile_append_rtakeWhile]

/-- Empty pieces at the end leave their delimiters. -/
theorem join_append_replicate {ws : List Text} (hws : ws ≠ []) (k : Nat) :
    join d (ws ++ List.replicate k []) = join d ws ++ (List.replicate k d).flatten := by
  obtain ⟨w, ws, rfl⟩ := List.exists_cons_of_ne_nil hws
  rw [List.cons_append, join_cons, join_cons, List.flatMap_append, List.append_assoc]
  simp only [List.flatMap_def, List.map_replicate, List.append_nil]

/-! ## Occurrences -/

/-- A text that the first symbol of `x :: rest` is not in holds no start of an occurrence. -/
theorem infix_of_infix_append {x : Symbol} {rest u v : Text} (hx : x ∉ u)
    (h : x :: rest <:+: u ++ v) : x :: rest <:+: v := by
  induction u with
  | nil => exact h
  | cons s u ih =>
    rw [List.mem_cons, not_or] at hx
    rw [List.cons_append, List.infix_cons_iff] at h
    rcases h with hp | hi
    · exact absurd (List.cons_prefix_cons.mp hp).1 hx.1
    · exact ih hx.2 hi

theorem breakOn_of_skips {u v : Text} (hne : d ≠ []) (hu : (literal d).Skips u v)
    (hv : v = [] ∨ d <+: v) : (u ++ v).breakOn d = (u, v) := by
  induction u with
  | nil =>
    rcases hv with rfl | hv
    · rfl
    · obtain ⟨s, rest, rfl⟩ := List.exists_cons_of_ne_nil (List.ne_nil_of_mem
        (hv.subset (List.getLast_mem hne)))
      rw [List.nil_append, breakOn, if_pos (List.isPrefixOf_iff_prefix.mpr hv)]
  | cons s u ih =>
    have hmiss : ¬ d <+: s :: (u ++ v) := (literal_misses_iff hne).mp hu.1
    rw [List.cons_append, breakOn, if_neg fun h => hmiss (List.isPrefixOf_iff_prefix.mp h),
      ih hu.2]

/-- The parts meet at the first occurrence, if there is one. -/
theorem skips_breakOn (hne : d ≠ []) (t : Text) :
    (literal d).Skips (t.breakOn d).1 (t.breakOn d).2 ∧
      ((t.breakOn d).2 = [] ∨ d <+: (t.breakOn d).2) := by
  induction t with
  | nil => exact ⟨trivial, .inl rfl⟩
  | cons s rest ih =>
    rw [breakOn]
    split
    · rename_i h
      exact ⟨trivial, .inr (List.isPrefixOf_iff_prefix.mp h)⟩
    · rename_i h
      have hmiss : (literal d).Misses (s :: ((breakOn rest d).1 ++ (breakOn rest d).2)) := by
        rw [literal_misses_iff hne, breakOn_append]
        exact fun hp => h (List.isPrefixOf_iff_prefix.mpr hp)
      exact ⟨⟨hmiss, ih.1⟩, ih.2⟩

end SearchTemplate.Text
