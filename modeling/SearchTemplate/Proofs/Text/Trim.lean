import Mathlib.Data.List.DropRight
import SearchTemplate.Text.Blank

/-!
# Ends of a text

Trimming takes the blanks off both ends of a text and nothing else. A text with a visible symbol at
each end (`Text.Trimmed`) stays as it is, also where other texts stand around it
(`Text.trim_append`).
-/

namespace SearchTemplate.Text

variable {t u v w : Text}

theorem isBlank_cons (s : Symbol) (t : Text) :
    isBlank (s :: t) = (s.isBlank && isBlank t) := List.all_cons

/-! ## The start -/

theorem forall_mem_head?_of_prefix {P : Symbol → Prop} (h : ∀ s ∈ t.head?, P s) (hw : w <+: t) :
    ∀ s ∈ w.head?, P s := by
  obtain ⟨later, rfl⟩ := hw
  cases w with
  | nil =>
    intro s hs
    cases hs
  | cons x w => exact h

/-- The text does not start with a blank. -/
def StartsVisible (t : Text) : Prop := ∀ s ∈ t.head?, s.isBlank = false

instance (t : Text) : Decidable t.StartsVisible :=
  inferInstanceAs (Decidable (∀ s ∈ t.head?, s.isBlank = false))

theorem StartsVisible.of_isPrefix (h : t.StartsVisible) (hw : w <+: t) : w.StartsVisible :=
  forall_mem_head?_of_prefix h hw

theorem StartsVisible.append (hw : w.StartsVisible) (hne : w ≠ []) (v : Text) :
    (w ++ v).StartsVisible := by
  intro s hs
  rw [List.head?_append_of_ne_nil w hne] at hs
  exact hw s hs

theorem StartsVisible.trimStart_eq (h : t.StartsVisible) : t.trimStart = t := by
  cases t with
  | nil => rfl
  | cons s t => exact List.dropWhile_cons_of_neg (by simp [h s rfl])

theorem startsVisible_trimStart (t : Text) : t.trimStart.StartsVisible := by
  have hhead := List.head?_dropWhile_not Symbol.isBlank t
  intro s hs
  rw [trimStart, Option.mem_def] at hs
  rwa [hs] at hhead

theorem exists_trimStart_eq (t : Text) :
    ∃ blanks : Text, blanks.isBlank = true ∧ t = blanks ++ t.trimStart := by
  refine ⟨t.takeWhile Symbol.isBlank, ?_, List.takeWhile_append_dropWhile.symm⟩
  exact List.all_takeWhile

theorem trimStart_append (hw : w.isBlank = true) (t : Text) : (w ++ t).trimStart = t.trimStart :=
  List.dropWhile_append_of_pos (List.all_eq_true.mp hw)

theorem trimStart_append_of_startsVisible (hw : w.StartsVisible) (u : Text) :
    (u ++ w).trimStart = u.trimStart ++ w := by
  have hself := hw.trimStart_eq
  unfold trimStart at hself ⊢
  rw [List.dropWhile_append, hself]
  split
  · rename_i hnil
    rw [List.isEmpty_iff.mp hnil, List.nil_append]
  · rfl

/-! ## The end -/

/-- The text does not end with a blank. -/
def EndsVisible (t : Text) : Prop := ∀ s ∈ t.getLast?, s.isBlank = false

instance (t : Text) : Decidable t.EndsVisible :=
  inferInstanceAs (Decidable (∀ s ∈ t.getLast?, s.isBlank = false))

theorem endsVisible_iff_reverse : t.EndsVisible ↔ StartsVisible t.reverse := by
  rw [EndsVisible, StartsVisible, List.head?_reverse]

theorem EndsVisible.of_suffix (h : t.EndsVisible) (hw : w <:+ t) : w.EndsVisible :=
  endsVisible_iff_reverse.mpr
    ((endsVisible_iff_reverse.mp h).of_isPrefix (List.reverse_prefix.mpr hw))

theorem EndsVisible.append (hw : w.EndsVisible) (hne : w ≠ []) (u : Text) :
    (u ++ w).EndsVisible := by
  intro s hs
  rw [List.getLast?_append_of_ne_nil u hne] at hs
  exact hw s hs

theorem EndsVisible.isBlank_eq_false (h : t.EndsVisible) (hne : t ≠ []) : t.isBlank = false := by
  rw [isBlank, List.all_eq_false]
  exact ⟨t.getLast hne, List.getLast_mem hne, by simp [h _ (List.getLast_mem_getLast? hne)]⟩

/-- Trimming the end is trimming the start of the text read backwards. -/
theorem trimEnd_eq (t : Text) : t.trimEnd = (trimStart t.reverse).reverse := rfl

theorem endsVisible_trimEnd (t : Text) : t.trimEnd.EndsVisible := by
  rw [endsVisible_iff_reverse, trimEnd_eq, List.reverse_reverse]
  exact startsVisible_trimStart _

theorem trimEnd_isPrefix (t : Text) : t.trimEnd <+: t := List.rdropWhile_prefix Symbol.isBlank t

theorem trimEnd_eq_nil_iff : t.trimEnd = [] ↔ t.isBlank = true :=
  List.rdropWhile_eq_nil_iff.trans List.all_eq_true.symm

theorem trimEnd_append_of_endsVisible (hw : w.EndsVisible) (v : Text) :
    (w ++ v).trimEnd = w ++ v.trimEnd := by
  have hreverse := trimStart_append_of_startsVisible (endsVisible_iff_reverse.mp hw) v.reverse
  rw [trimEnd_eq, List.reverse_append, hreverse, List.reverse_append, List.reverse_reverse,
    ← trimEnd_eq]

theorem EndsVisible.trimEnd_eq (h : t.EndsVisible) : t.trimEnd = t := by
  have happend := trimEnd_append_of_endsVisible h []
  rwa [List.append_nil, show trimEnd [] = [] from rfl, List.append_nil] at happend

theorem trimEnd_append_of_not_isBlank (hw : w.isBlank = false) (u : Text) :
    (u ++ w).trimEnd = u ++ w.trimEnd := by
  have hne : ¬ (List.dropWhile Symbol.isBlank w.reverse).isEmpty = true := by
    rw [List.isEmpty_iff, List.dropWhile_eq_nil_iff, ← List.all_eq_true, List.all_reverse]
    exact Bool.eq_false_iff.mp hw
  rw [trimEnd, List.reverse_append, List.dropWhile_append, if_neg hne, List.reverse_append,
    List.reverse_reverse]
  rfl

/-! ## Both ends -/

/-- The text neither starts nor ends with a blank. -/
structure Trimmed (t : Text) : Prop where
  starts : t.StartsVisible
  ends : t.EndsVisible

instance (t : Text) : Decidable t.Trimmed :=
  decidable_of_iff (t.StartsVisible ∧ t.EndsVisible) ⟨fun h => ⟨h.1, h.2⟩, fun h => ⟨h.1, h.2⟩⟩

theorem trimmed_of_forall (h : ∀ s ∈ t, s.isBlank = false) : t.Trimmed where
  starts s hs := h s (List.mem_of_mem_head? hs)
  ends s hs := h s (List.mem_of_mem_getLast? hs)

theorem trimmed_trim (t : Text) : t.trim.Trimmed where
  starts := (startsVisible_trimStart t).of_isPrefix (trimEnd_isPrefix _)
  ends := endsVisible_trimEnd _

/-- Around a trimmed text, only the outer ends of its neighbours are trimmed. -/
theorem trim_append (hw : w.Trimmed) (hne : w ≠ []) (u v : Text) :
    (u ++ (w ++ v)).trim = u.trimStart ++ (w ++ v.trimEnd) := by
  have hends := hw.ends.append hne u.trimStart
  rw [trim, trimStart_append_of_startsVisible (hw.starts.append hne v), ← List.append_assoc,
    trimEnd_append_of_endsVisible hends, List.append_assoc]

end SearchTemplate.Text
