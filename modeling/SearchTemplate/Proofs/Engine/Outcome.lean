import Mathlib.Data.List.Forall2
import SearchTemplate.Engine.Outcome

/-!
# Outcomes of steps in a row

Steps that follow one another end with the failure of the first one that fails, and give all their
results where none does. What a step has reported stands before the events of the steps after it
(`Outcome.after`).
-/

namespace SearchTemplate

section

variable {ε α β : Type}

/-! ## Two steps -/

theorem bind_eq_ok_iff {x : Except ε α} {g : α → Except ε β} {b : β} :
    x >>= g = .ok b ↔ ∃ a, x = .ok a ∧ g a = .ok b := by
  cases x with
  | error e =>
    refine ⟨?_, ?_⟩
    · intro h
      cases h
    · rintro ⟨a, ha, -⟩
      cases ha
  | ok a =>
    refine ⟨?_, ?_⟩
    · intro h
      exact ⟨a, rfl, h⟩
    · rintro ⟨a', ha, h⟩
      cases ha
      exact h

theorem bind_eq_error_iff {x : Except ε α} {g : α → Except ε β} {e : ε} :
    x >>= g = .error e ↔ x = .error e ∨ ∃ a, x = .ok a ∧ g a = .error e := by
  cases x with
  | error e' =>
    refine ⟨?_, ?_⟩
    · intro h
      cases h
      exact .inl rfl
    · rintro (h | ⟨a, ha, -⟩)
      · cases h
        rfl
      · cases ha
  | ok a =>
    refine ⟨?_, ?_⟩
    · intro h
      exact .inr ⟨a, rfl, h⟩
    · rintro (h | ⟨a', ha, h⟩)
      · cases h
      · cases ha
        exact h

theorem map_eq_ok_iff {x : Except ε α} {g : α → β} {b : β} :
    x.map g = .ok b ↔ ∃ a, x = .ok a ∧ g a = b := by
  cases x <;> simp [Except.map]

theorem exists_map_eq_ok_iff {x : Except ε α} {g : α → β} :
    (∃ b, x.map g = .ok b) ↔ ∃ a, x = .ok a := by
  cases x <;> simp [Except.map]

theorem map_eq_error_iff {x : Except ε α} {g : α → β} {e : ε} :
    x.map g = .error e ↔ x = .error e := by
  cases x <;> simp [Except.map]

/-! ## Lists in step -/

section

variable {R : α → β → Prop} {xs : List α} {ys : List β}

theorem exists_of_mem_forall₂ (h : List.Forall₂ R xs ys) {y : β} (hy : y ∈ ys) :
    ∃ x ∈ xs, R x y := by
  induction h with
  | nil => cases hy
  | cons hx _ ih =>
    rcases List.mem_cons.mp hy with rfl | hy
    · exact ⟨_, List.mem_cons_self, hx⟩
    · obtain ⟨x, hmem, hxy⟩ := ih hy
      exact ⟨x, List.mem_cons_of_mem _ hmem, hxy⟩

theorem head_of_forall₂ (h : List.Forall₂ R xs ys) (hx : xs ≠ []) (hy : ys ≠ []) :
    R (xs.head hx) (ys.head hy) := by
  cases h with
  | nil => exact absurd rfl hx
  | cons hhead _ => exact hhead

theorem getLast_of_forall₂ (h : List.Forall₂ R xs ys) (hx : xs ≠ []) (hy : ys ≠ []) :
    R (xs.getLast hx) (ys.getLast hy) := by
  rw [List.getLast_eq_head_reverse hx, List.getLast_eq_head_reverse hy]
  exact head_of_forall₂ (List.forall₂_reverse_iff.mpr h) _ _

/-- Values that exist for each pair form a list of their own. -/
theorem exists_map_of_forall₂ {γ : Type} {P : α → γ → Prop} {g : γ → β}
    (h : List.Forall₂ (fun x y => ∃ z, P x z ∧ g z = y) xs ys) :
    ∃ zs, List.Forall₂ P xs zs ∧ zs.map g = ys := by
  induction h with
  | nil => exact ⟨[], .nil, rfl⟩
  | cons hhead _ ih =>
    obtain ⟨z, hz, rfl⟩ := hhead
    obtain ⟨zs, hzs, rfl⟩ := ih
    exact ⟨z :: zs, .cons hz hzs, rfl⟩

end

/-- The longest start of a list whose items all have a value. -/
theorem exists_longest {f : β → α} {P : β → Prop} {Q : α → Prop} {xs : List α}
    (h : ∀ x ∈ xs, (∃ y, f y = x ∧ P y) ∨ Q x) :
    ∃ (ys : List β) (rest : List α),
      xs = ys.map f ++ rest ∧ (∀ y ∈ ys, P y) ∧ ∀ x ∈ rest.head?, Q x := by
  induction xs with
  | nil => exact ⟨[], [], rfl, by simp, by simp⟩
  | cons x xs ih =>
    obtain ⟨hx, hxs⟩ := List.forall_mem_cons.mp h
    rcases hx with ⟨y, rfl, hy⟩ | hx
    · obtain ⟨ys, rest, rfl, hys, hrest⟩ := ih hxs
      exact ⟨y :: ys, rest, rfl, List.forall_mem_cons.mpr ⟨hy, hys⟩, hrest⟩
    · refine ⟨[], x :: xs, rfl, by simp, ?_⟩
      intro x' hx'
      cases hx'
      exact hx

/-! ## Steps in a row -/

variable {f : α → Except ε β} {xs : List α}

theorem mapM_eq_ok_iff {ys : List β} :
    xs.mapM f = .ok ys ↔ List.Forall₂ (fun x y => f x = .ok y) xs ys := by
  induction xs generalizing ys with
  | nil =>
    rw [List.mapM_nil, List.forall₂_nil_left_iff]
    exact ⟨fun h => (Except.ok.inj h).symm, fun h => h ▸ rfl⟩
  | cons x xs ih =>
    rw [List.mapM_cons, bind_eq_ok_iff]
    simp only [bind_eq_ok_iff, ih]
    refine ⟨?_, ?_⟩
    · rintro ⟨y, hy, rest, hrest, h⟩
      cases h
      exact .cons hy hrest
    · rintro (_ | ⟨hy, hrest⟩)
      exact ⟨_, hy, _, hrest, rfl⟩

theorem mapM_congr {g : α → Except ε β} (h : ∀ x ∈ xs, f x = g x) : xs.mapM f = xs.mapM g := by
  induction xs with
  | nil => rfl
  | cons x xs ih =>
    obtain ⟨hx, hxs⟩ := List.forall_mem_cons.mp h
    rw [List.mapM_cons, List.mapM_cons, hx, ih hxs]

/-- Every result is that of one of the steps. -/
theorem exists_of_mem_mapM {ys : List β} (h : xs.mapM f = .ok ys) {y : β} (hy : y ∈ ys) :
    ∃ x ∈ xs, f x = .ok y := exists_of_mem_forall₂ (mapM_eq_ok_iff.mp h) hy

theorem exists_mapM_eq_ok_iff :
    (∃ ys, xs.mapM f = .ok ys) ↔ ∀ x ∈ xs, ∃ y, f x = .ok y := by
  simp only [mapM_eq_ok_iff]
  induction xs with
  | nil => simp
  | cons x xs ih =>
    rw [List.forall_mem_cons, ← ih]
    refine ⟨?_, ?_⟩
    · rintro ⟨_, _ | ⟨hy, hrest⟩⟩
      exact ⟨⟨_, hy⟩, _, hrest⟩
    · rintro ⟨⟨y, hy⟩, rest, hrest⟩
      exact ⟨y :: rest, .cons hy hrest⟩

/-- The failure is that of the first step that fails. -/
theorem mapM_eq_error_iff {e : ε} :
    xs.mapM f = .error e ↔ ∃ before x after, xs = before ++ x :: after ∧
      (∀ y ∈ before, ∃ b, f y = .ok b) ∧ f x = .error e := by
  induction xs with
  | nil =>
    refine ⟨?_, ?_⟩
    · intro h
      cases h
    · rintro ⟨before, x, after, h, -⟩
      exact absurd h.symm (by simp)
  | cons x xs ih =>
    rw [List.mapM_cons, bind_eq_error_iff]
    refine ⟨?_, ?_⟩
    · rintro (hx | ⟨y, hy, h⟩)
      · exact ⟨[], x, xs, rfl, by simp, hx⟩
      · rcases bind_eq_error_iff.mp h with h | ⟨ys, -, h⟩
        · obtain ⟨before, x', after, rfl, hbefore, hx'⟩ := ih.mp h
          exact ⟨x :: before, x', after, rfl,
            List.forall_mem_cons.mpr ⟨⟨y, hy⟩, hbefore⟩, hx'⟩
        · cases h
    · rintro ⟨_ | ⟨z, before⟩, x', after, heq, hbefore, hx'⟩
      · cases heq
        exact .inl hx'
      · cases heq
        obtain ⟨⟨y, hy⟩, hbefore⟩ := List.forall_mem_cons.mp hbefore
        have hrest := ih.mpr ⟨before, x', after, rfl, hbefore, hx'⟩
        exact .inr ⟨y, hy, bind_eq_error_iff.mpr (.inl hrest)⟩

end

namespace Outcome

variable {α β : Type}

theorem pure_bind_eq (a : α) (f : α → Outcome β) : (Pure.pure a : Outcome α) >>= f = f a := rfl

@[simp] theorem result_bind (x : Outcome α) (f : α → Outcome β) :
    (x >>= f).result = x.result >>= fun a => (f a).result := by
  obtain ⟨events, failure | a⟩ := x <;> rfl

@[simp] theorem events_pure (a : α) : (Pure.pure a : Outcome α).events = [] := rfl

@[simp] theorem result_pure (a : α) : (Pure.pure a : Outcome α).result = .ok a := rfl

@[simp] theorem result_log (e : Event) : (log e).result = .ok () := rfl

@[simp] theorem result_fail (failure : Failure) :
    (fail failure : Outcome α).result = .error failure := rfl

/-! ## Events that were reported before -/

variable {γ : Type}

/-- An outcome after the events `es`, with `g` to complete its result. -/
def after (es : List Event) (g : α → β) (x : Outcome α) : Outcome β :=
  ⟨es ++ x.events, x.result.map g⟩

@[simp] theorem result_after (es : List Event) (g : α → β) (x : Outcome α) :
    (x.after es g).result = x.result.map g := rfl

theorem after_nil (x : Outcome α) : x.after [] id = x := by
  obtain ⟨events, failure | a⟩ := x <;> rfl

theorem after_after (es es' : List Event) (g : α → β) (g' : β → γ) (x : Outcome α) :
    (x.after es g).after es' g' = x.after (es' ++ es) (g' ∘ g) := by
  obtain ⟨events, failure | a⟩ := x <;> simp [after, Except.map]

/-- A step that succeeded stands before the others with its events and its result. -/
theorem ok_bind_eq_after (es : List Event) (a : α) (x : Outcome β) (g : α → β → γ) :
    ((⟨es, .ok a⟩ : Outcome α) >>= fun a => x >>= fun b => Pure.pure (g a b)) =
      x.after es (g a) := by
  obtain ⟨events, failure | b⟩ := x
  · rfl
  · show (⟨es ++ (events ++ []), .ok (g a b)⟩ : Outcome γ) = _
    rw [List.append_nil]
    rfl

/-- The first step that fails ends the outcome. -/
theorem error_bind (es : List Event) (failure : Failure) (f : α → Outcome β) :
    (⟨es, .error failure⟩ : Outcome α) >>= f = ⟨es, .error failure⟩ := rfl

end Outcome

end SearchTemplate
