import SearchTemplate.Yaml.Fault

/-!
# Results and faults

`Ends` says of what a reader gives that a result has one property and a fault another. It is proved
of a reader step by step: of a sequence of steps, each of which starts from what the ones before
it have established (`Ends.bind`), of a check (`Ends.guarded`), and of a step made for every item of
a list (`Ends.mapM`).
-/

namespace SearchTemplate.Yaml

variable {ε α β : Type}

/-- A result has the property `P`, a fault the property `F`. -/
def Ends (F : ε → Prop) (P : α → Prop) : Except ε α → Prop
  | .ok a => P a
  | .error e => F e

namespace Ends

variable {F G : ε → Prop} {P P' : α → Prop} {Q : β → Prop} {x : Except ε α} {f : α → Except ε β}

theorem imp (h : Ends F P x) (hF : ∀ e, F e → G e) (hP : ∀ a, P a → P' a) : Ends G P' x := by
  cases x with
  | error e => exact hF e h
  | ok a => exact hP a h

theorem pure {a : α} (ha : P a) : Ends F P (pure a) := ha

theorem bind (hx : Ends F P x) (hf : ∀ a, P a → Ends F Q (f a)) : Ends F Q (x >>= f) := by
  cases x with
  | error e => exact hx
  | ok a => exact hf a hx

theorem map {g : α → β} (hx : Ends F P x) (hg : ∀ a, P a → Q (g a)) : Ends F Q (x.map g) := by
  cases x with
  | error e => exact hx
  | ok a => exact hg a hx

theorem ite {c : Prop} [Decidable c] {y : Except ε α} (hx : Ends F P x) (hy : Ends F P y) :
    Ends F P (if c then x else y) := by
  split
  · exact hx
  · exact hy

/-- A check before the rest. -/
theorem guarded {c : Prop} [Decidable c] {e : ε} {rest : PUnit → Except ε α} (he : F e)
    (hrest : ∀ u, Ends F P (rest u)) : Ends F P (if c then throw e >>= rest else rest ⟨⟩) :=
  .ite he (hrest _)

theorem mapM {as : List α} (hf : ∀ a ∈ as, Ends F Q (f a)) :
    Ends F (fun bs => ∀ b ∈ bs, Q b) (as.mapM f) := by
  induction as with
  | nil => exact List.forall_mem_nil _
  | cons a as ih =>
    rw [List.forall_mem_cons] at hf
    rw [List.mapM_cons]
    exact .bind hf.1 fun _ hb => .bind (ih hf.2) fun _ hbs =>
      .pure (List.forall_mem_cons.mpr ⟨hb, hbs⟩)

end Ends

end SearchTemplate.Yaml
