import SearchTemplate.Proofs.Query.Transform
import SearchTemplate.Proofs.Text.Uppercase

/-!
# Upper case and capitals run by run

No blank is a word character, so that a word does not reach into the next run: capitalizing a text
is capitalizing its runs one by one (`Text.runwise_capitalize`), as putting it in upper case is
(`Text.runwise_uppercase`). In upper case there is nothing left to capitalize
(`Text.capitalize_uppercase`).
-/

namespace SearchTemplate

/-! ## Blanks are no word characters -/

theorem wordCodes_apart_blankCodes :
    (wordCodes.all fun w => blankCodes.all fun r => w.hi.blt r.lo || r.hi.blt w.lo) = true := by
  decide +kernel

theorem Symbol.isWordChar_of_isBlank {s : Symbol} (h : s.isBlank = true) :
    s.isWordChar = false := by
  cases s with
  | stray b => rfl
  | char c =>
    obtain ⟨r, hr, hblank⟩ := List.any_eq_true.mp h
    rw [isWordChar, List.any_eq_false]
    intro w hw hword
    have hapart := List.all_eq_true.mp (List.all_eq_true.mp wordCodes_apart_blankCodes w hw) r hr
    rw [CodeRange.contains_iff] at hblank hword
    simp only [Bool.or_eq_true, Nat.blt_eq] at hapart
    omega

namespace Text

variable {t u v r : Text} {b : Bool}

/-! ## Upper case -/

theorem uppercase_flatten (ts : List Text) :
    uppercase ts.flatten = (ts.map uppercase).flatten := by
  induction ts with
  | nil => rfl
  | cons t ts ih => rw [List.flatten_cons, uppercase_append, ih, List.map_cons, List.flatten_cons]

theorem uppercase_ne_nil (h : t ≠ []) : t.uppercase ≠ [] := by
  obtain ⟨s, t, rfl⟩ := List.exists_cons_of_ne_nil h
  exact List.append_ne_nil_of_left_ne_nil s.uppercase_ne_nil _

theorem isBlank_of_mem_uppercase (h : ∀ s ∈ t, s.isBlank = b) :
    ∀ x ∈ t.uppercase, x.isBlank = b :=
  forall_mem_uppercase (fun _ hs _ hx => (Symbol.isBlank_of_mem_uppercase hx).trans hs) h

theorem uppercase_of_isBlank (h : t.isBlank = true) : t.uppercase = t := by
  have hself : ∀ s ∈ t, s.uppercase = [s] := fun s hs =>
    s.uppercase_of_isBlank (List.all_eq_true.mp h s hs)
  rw [uppercase, List.flatMap_congr hself, List.flatMap_singleton']

theorem runwise_uppercase : Runwise uppercase where
  eq_flatten t := by rw [← uppercase_flatten, flatten_runs]
  uniform r h := by
    have hne := uppercase_ne_nil h.1
    have hkind := isBlank_of_mem_uppercase h.2
    exact ⟨uniform_of_forall hne hkind, isBlank_eq_of_forall hne hkind⟩

/-! ## Capitals -/

/-- Whether a word goes on after `t`, where one goes on before it if `b`. -/
def inWordAfter (b : Bool) (t : Text) : Bool := (t.getLast?.map Symbol.isWordChar).getD b

theorem capitalizeAfter_append (b : Bool) (u v : Text) :
    capitalizeAfter b (u ++ v) = capitalizeAfter b u ++ capitalizeAfter (inWordAfter b u) v := by
  induction u generalizing b with
  | nil => rfl
  | cons s u ih =>
    have hstate : inWordAfter s.isWordChar u = inWordAfter b (s :: u) := by
      cases u with
      | nil => rfl
      | cons x u =>
        have hlast := List.getLast?_eq_some_getLast (List.cons_ne_nil x u)
        simp only [inWordAfter, List.getLast?_cons_cons, hlast, Option.map_some, Option.getD_some]
    rw [List.cons_append, capitalizeAfter, capitalizeAfter, ih, hstate, List.append_assoc]

theorem capitalizeAfter_eq (h : b = false ∨ ∀ s ∈ t.head?, s.isWordChar = false) :
    capitalizeAfter b t = t.capitalize := by
  cases t with
  | nil => rfl
  | cons s t =>
    rw [capitalize, capitalizeAfter, capitalizeAfter]
    rcases h with rfl | h
    · rfl
    · simp [h s rfl]

/-- No word reaches from a blank to a visible symbol, or the other way. -/
theorem capitalize_append (h : ∀ x ∈ u.getLast?, ∀ y ∈ v.head?, x.isBlank ≠ y.isBlank) :
    (u ++ v).capitalize = u.capitalize ++ v.capitalize := by
  rw [capitalize, capitalizeAfter_append]
  congr 1
  refine capitalizeAfter_eq ?_
  cases hlast : u.getLast? with
  | none => exact .inl (by rw [inWordAfter, hlast]; rfl)
  | some x =>
    by_cases hx : x.isBlank = true
    · left
      rw [inWordAfter, hlast]
      exact Symbol.isWordChar_of_isBlank hx
    · right
      intro y hy
      have hkinds := h x hlast y hy
      exact Symbol.isWordChar_of_isBlank (by grind)

theorem capitalize_flatten {rs : List Text} (h : Alternate rs) :
    capitalize rs.flatten = (rs.map capitalize).flatten := by
  induction rs with
  | nil => rfl
  | cons r rs ih =>
    rw [List.flatten_cons, capitalize_append h.kinds_differ, ih h.tail, List.map_cons,
      List.flatten_cons]

theorem runwise_capitalize : Runwise capitalize where
  eq_flatten t := by
    rw [← capitalize_flatten (alternate_runs t), flatten_runs]
  uniform r h := by
    have hne : r.capitalize ≠ [] := by
      obtain ⟨s, t, rfl⟩ := List.exists_cons_of_ne_nil h.1
      refine List.append_ne_nil_of_left_ne_nil ?_ _
      split
      · exact s.uppercase_ne_nil
      · exact List.cons_ne_nil _ _
    have hkind := forall_mem_capitalize (P := fun s => s.isBlank = r.isBlank)
      (fun _ hs _ hx => (Symbol.isBlank_of_mem_uppercase hx).trans hs) h.2
    exact ⟨uniform_of_forall hne hkind, isBlank_eq_of_forall hne hkind⟩

theorem capitalizeAfter_of_forall (h : ∀ s ∈ t, s.uppercase = [s]) :
    capitalizeAfter b t = t := by
  induction t generalizing b with
  | nil => rfl
  | cons s t ih =>
    obtain ⟨hs, ht⟩ := List.forall_mem_cons.mp h
    rw [capitalizeAfter, ih ht, hs, ite_self]
    rfl

theorem capitalize_uppercase (t : Text) : t.uppercase.capitalize = t.uppercase := by
  refine capitalizeAfter_of_forall fun x hx => ?_
  obtain ⟨s, -, hs⟩ := List.mem_flatMap.mp hx
  exact Symbol.uppercase_of_mem_uppercase hs

end Text

end SearchTemplate
