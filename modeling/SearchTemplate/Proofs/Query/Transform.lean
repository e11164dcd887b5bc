import SearchTemplate.Proofs.Text.Split
import SearchTemplate.Proofs.Text.Words
import SearchTemplate.Query.Transform

/-!
# What a transformed query is made of

No transformation of a query adds a symbol, except that upper case puts others in the place of some
(`Query.forall_mem_transform`). The transformations that pick, reorder and drop are followed by
membership alone.
-/

namespace SearchTemplate

variable {P : Symbol → Prop} {q t w : Text} {s : Symbol}

namespace Text

/-! ## Words and runs -/

theorem mem_of_mem_words (hw : w ∈ t.words) (hs : s ∈ w) : s ∈ t := by
  have hflat : s ∈ t.words.flatten := List.mem_flatten.mpr ⟨w, hw, hs⟩
  rw [flatten_words] at hflat
  exact (List.dropWhile_sublist _).subset hflat

theorem mem_of_mem_reverseRuns (hs : s ∈ t.reverseRuns) : s ∈ t := by
  obtain ⟨w, hw, hsw⟩ := List.mem_flatten.mp hs
  have hflat : s ∈ t.runs.flatten := List.mem_flatten.mpr ⟨w, List.mem_reverse.mp hw, hsw⟩
  rwa [flatten_runs] at hflat

/-! ## Upper case -/

section

variable (hP : ∀ s, P s → ∀ x ∈ s.uppercase, P x)

include hP

theorem forall_mem_uppercase (ht : ∀ s ∈ t, P s) : ∀ x ∈ t.uppercase, P x := by
  intro x hx
  obtain ⟨s, hs, hxs⟩ := List.mem_flatMap.mp hx
  exact hP s (ht s hs) x hxs

theorem forall_mem_capitalizeAfter {before : Bool} (ht : ∀ s ∈ t, P s) :
    ∀ x ∈ capitalizeAfter before t, P x := by
  induction t generalizing before with
  | nil =>
    intro x hx
    cases hx
  | cons s rest ih =>
    obtain ⟨hs, hrest⟩ := List.forall_mem_cons.mp ht
    intro x hx
    rcases List.mem_append.mp hx with h | h
    · split at h
      · exact hP s hs x h
      · exact List.mem_singleton.mp h ▸ hs
    · exact ih hrest x h

theorem forall_mem_capitalize (ht : ∀ s ∈ t, P s) : ∀ x ∈ t.capitalize, P x :=
  forall_mem_capitalizeAfter hP ht

end

end Text

namespace Query

/-! ## The steps of the transformation -/

/-- A step that a condition decides on. -/
theorem forall_mem_ite {b : Prop} [Decidable b] (ht : ∀ s ∈ t, P s) (hw : ∀ s ∈ w, P s) :
    ∀ s ∈ if b then t else w, P s := by
  split
  · exact ht
  · exact hw

theorem mem_of_mem_pickWords {positions : List Int} (h : s ∈ pickWords positions q) : s ∈ q := by
  obtain ⟨w, hw, hs⟩ := List.mem_flatten.mp (Text.mem_of_mem_trimEnd h)
  obtain ⟨position, -, hposition⟩ := List.mem_filterMap.mp hw
  obtain ⟨i, -, hi⟩ := Option.bind_eq_some_iff.mp hposition
  exact Text.mem_of_mem_words (List.mem_of_getElem? hi) hs

section

variable (hP : ∀ s, P s → ∀ x ∈ s.uppercase, P x)

include hP

theorem forall_mem_uppercaseWord {words : List Text} (hwords : ∀ w ∈ words, ∀ s ∈ w, P s)
    (position : Int) : ∀ w ∈ uppercaseWord words position, ∀ s ∈ w, P s := by
  unfold uppercaseWord
  split
  · rename_i i _
    intro w hw
    obtain ⟨j, hj⟩ := List.mem_iff_getElem?.mp hw
    rw [List.getElem?_modify] at hj
    obtain ⟨v, hv, rfl⟩ := Option.map_eq_some_iff.mp hj
    have hvwords := hwords v (List.mem_of_getElem? hv)
    split
    · exact Text.forall_mem_uppercase hP hvwords
    · exact hvwords
  · exact hwords

theorem forall_mem_uppercaseWords {words : List Text} (hwords : ∀ w ∈ words, ∀ s ∈ w, P s)
    (positions : List Int) :
    ∀ w ∈ positions.foldl uppercaseWord words, ∀ s ∈ w, P s := by
  induction positions generalizing words with
  | nil => exact hwords
  | cons position rest ih => exact ih (forall_mem_uppercaseWord hP hwords position)

theorem forall_mem_uppercase (u : Uppercase) (hq : ∀ s ∈ q, P s) : ∀ s ∈ uppercase u q, P s := by
  unfold uppercase
  split
  · exact Text.forall_mem_uppercase hP hq
  · exact hq
  · rename_i indexes _
    have hwords : ∀ w ∈ q.words, ∀ s ∈ w, P s := fun w hw s hs =>
      hq s (Text.mem_of_mem_words hw hs)
    intro s hs
    obtain ⟨w, hw, hsw⟩ := List.mem_flatten.mp hs
    exact forall_mem_uppercaseWords hP hwords indexes w hw s hsw

/-- **The symbols of a transformed query.** A property of symbols that upper case keeps is kept by
every combination of options. -/
theorem forall_mem_transform (o : Options) (hq : ∀ s ∈ q, P s) : ∀ s ∈ transform o q, P s := by
  have hpicked : ∀ s ∈ if o.wordPositions.isEmpty then q else pickWords o.wordPositions q, P s :=
    forall_mem_ite hq fun s hs => hq s (mem_of_mem_pickWords hs)
  have hupper := forall_mem_uppercase hP o.uppercase hpicked
  have hcapital := forall_mem_ite (b := o.capitalize = true)
    (Text.forall_mem_capitalize hP hupper) hupper
  have hreverse := forall_mem_ite (b := o.reverse = true)
    (fun s hs => hcapital s (Text.mem_of_mem_reverseRuns hs)) hcapital
  exact forall_mem_ite (fun s hs => hreverse s (Text.mem_of_mem_erase hs)) hreverse

end

end Query

end SearchTemplate
