import Mathlib.Data.List.SplitBy
import SearchTemplate.Proofs.Text.Trim
import SearchTemplate.Text.Words

/-!
# Runs of a text

The runs of a text are the only cut of it into pieces of one kind, blank or visible, in which the
two kinds alternate (`Text.runs_eq_iff`). A function that works run by run and keeps the kind of
each (`Text.Runwise`) can be applied before or after the runs are put in opposite order
(`Text.Runwise.reverseRuns_comm`).
-/

namespace SearchTemplate.Text

variable {t u v r : Text} {rs : List Text} {b : Bool} {f : Text → Text}

/-! ## Texts of one kind -/

/-- Not empty, and either of blanks only or of visible symbols only. -/
def Uniform (r : Text) : Prop := r ≠ [] ∧ ∀ s ∈ r, s.isBlank = r.isBlank

theorem isBlank_eq_of_forall (hne : t ≠ []) (h : ∀ s ∈ t, s.isBlank = b) : t.isBlank = b := by
  cases b with
  | true => exact List.all_eq_true.mpr h
  | false => exact (trimmed_of_forall h).ends.isBlank_eq_false hne

theorem uniform_of_forall (hne : t ≠ []) (h : ∀ s ∈ t, s.isBlank = b) : t.Uniform :=
  ⟨hne, by rwa [isBlank_eq_of_forall hne h]⟩

theorem isChain_iff_uniform (hne : r ≠ []) :
    r.IsChain (fun x y => (x.isBlank == y.isBlank) = true) ↔ r.Uniform := by
  constructor
  · intro h
    obtain ⟨x, t, rfl⟩ := List.exists_cons_of_ne_nil hne
    have hpair : (x :: t).Pairwise fun x y => x.isBlank = y.isBlank :=
      (h.imp fun _ _ hxy => eq_of_beq hxy).pairwise
    refine uniform_of_forall (b := x.isBlank) hne (List.forall_mem_cons.mpr ⟨rfl, fun y hy => ?_⟩)
    exact ((List.pairwise_cons.mp hpair).1 y hy).symm
  · intro h
    refine List.Pairwise.isChain (List.pairwise_of_forall_mem_list fun x hx y hy => ?_)
    rw [h.2 x hx, h.2 y hy, BEq.rfl]

/-! ## The runs of a text -/

/-- Pieces of one kind, each of the other kind than the one before. -/
structure Alternate (rs : List Text) : Prop where
  uniform : ∀ r ∈ rs, r.Uniform
  isChain : rs.IsChain fun r r' => r.isBlank ≠ r'.isBlank

theorem kinds_differ_iff (hr : r.Uniform) (hu : u.Uniform) :
    (∃ h h', ((r.getLast h).isBlank == (u.head h').isBlank) = false) ↔ r.isBlank ≠ u.isBlank := by
  simp only [hr.2 _ (List.getLast_mem _), hu.2 _ (List.head_mem _), hr.1, hu.1, beq_eq_false_iff_ne,
    ne_eq, not_false_eq_true, exists_true_left]

theorem runs_eq_iff : t.runs = rs ↔ t = rs.flatten ∧ Alternate rs := by
  rw [runs, List.splitBy_eq_iff]
  refine and_congr_right fun _ => ⟨?_, ?_⟩
  · rintro ⟨hnil, hkind, hchain⟩
    have huniform : ∀ r ∈ rs, r.Uniform := fun r hr =>
      (isChain_iff_uniform (ne_of_mem_of_not_mem hr hnil)).mp (hkind r hr)
    refine ⟨huniform, (List.IsChain.iff_of_mem_imp fun r r' hr hr' => ?_).mp hchain⟩
    exact kinds_differ_iff (huniform r hr) (huniform r' hr')
  · rintro ⟨huniform, hchain⟩
    refine ⟨fun hnil => (huniform [] hnil).1 rfl, fun r hr => ?_, ?_⟩
    · exact (isChain_iff_uniform (huniform r hr).1).mpr (huniform r hr)
    · refine (List.IsChain.iff_of_mem_imp fun r r' hr hr' => ?_).mpr hchain
      exact kinds_differ_iff (huniform r hr) (huniform r' hr')

theorem alternate_runs (t : Text) : Alternate t.runs := (runs_eq_iff.mp rfl).2

theorem flatten_runs (t : Text) : t.runs.flatten = t := (runs_eq_iff.mp rfl).1.symm

theorem runs_of_uniform (h : t.Uniform) : t.runs = [t] :=
  runs_eq_iff.mpr ⟨by simp, by simpa using h, List.isChain_singleton t⟩

/-- Runs do not reach from a blank to a visible symbol, or the other way. -/
theorem runs_append (h : ∀ x ∈ u.getLast?, ∀ y ∈ v.head?, x.isBlank ≠ y.isBlank) :
    (u ++ v).runs = u.runs ++ v.runs :=
  List.splitBy_append fun x hx y hy => beq_eq_false_iff_ne.mpr (h x hx y hy)

theorem Alternate.tail (h : Alternate (r :: rs)) : Alternate rs :=
  ⟨(List.forall_mem_cons.mp h.uniform).2, (List.isChain_cons.mp h.isChain).2⟩

theorem Alternate.kinds_differ (h : Alternate (r :: rs)) :
    ∀ x ∈ r.getLast?, ∀ y ∈ rs.flatten.head?, x.isBlank ≠ y.isBlank := by
  intro x hx y hy
  obtain ⟨hr, hrs⟩ := List.forall_mem_cons.mp h.uniform
  cases rs with
  | nil => cases hy
  | cons r' rs =>
    have hr' := hrs r' List.mem_cons_self
    rw [List.flatten_cons, List.head?_append_of_ne_nil _ hr'.1] at hy
    rw [hr.2 x (List.mem_of_mem_getLast? hx), hr'.2 y (List.mem_of_mem_head? hy)]
    exact (List.isChain_cons.mp h.isChain).1 r' rfl

/-! ## Runs in opposite order -/

theorem Alternate.reverse (h : Alternate rs) : Alternate rs.reverse where
  uniform r hr := h.uniform r (List.mem_reverse.mp hr)
  isChain := List.isChain_reverse.mpr (h.isChain.imp fun _ _ hne => hne.symm)

theorem runs_reverseRuns (t : Text) : t.reverseRuns.runs = t.runs.reverse :=
  runs_eq_iff.mpr ⟨rfl, (alternate_runs t).reverse⟩

/-- The function does the same as on the runs one by one, and keeps the kind of each. -/
structure Runwise (f : Text → Text) : Prop where
  eq_flatten : ∀ t, f t = (t.runs.map f).flatten
  uniform : ∀ r, r.Uniform → (f r).Uniform ∧ (f r).isBlank = r.isBlank

theorem Runwise.alternate (hf : Runwise f) (h : Alternate rs) : Alternate (rs.map f) where
  uniform r hr := by
    obtain ⟨r', hr', rfl⟩ := List.mem_map.mp hr
    exact (hf.uniform r' (h.uniform r' hr')).1
  isChain := by
    rw [List.isChain_map]
    refine h.isChain.imp_of_mem_imp fun r r' hr hr' hne => ?_
    rw [(hf.uniform r (h.uniform r hr)).2, (hf.uniform r' (h.uniform r' hr')).2]
    exact hne

theorem Runwise.runs_eq (hf : Runwise f) (t : Text) : (f t).runs = t.runs.map f :=
  runs_eq_iff.mpr ⟨hf.eq_flatten t, hf.alternate (alternate_runs t)⟩

/-- What is done run by run can be done before the runs are put in opposite order. -/
theorem Runwise.reverseRuns_comm (hf : Runwise f) (t : Text) :
    f t.reverseRuns = (f t).reverseRuns := by
  rw [hf.eq_flatten, runs_reverseRuns, reverseRuns, hf.runs_eq, List.map_reverse]

end SearchTemplate.Text
