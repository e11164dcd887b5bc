import Mathlib.Data.List.Sort
import SearchTemplate.Json.Basic

/-!
# Sorted values

Two values are the same (`Json.Same`) if they differ only in the order of fields, at any depth. The
sorted form is one of its values (`Json.same_sorted`), and there is only one for all of them
(`Json.sorted_eq_iff`). All of this is about exact values (`Json.Exact`), in which no object has two
fields of one key.
-/

namespace SearchTemplate

namespace Text

variable {s t u : Text}

theorem le_total (s t : Text) : le s t = true ∨ le t s = true := by
  induction s generalizing t with
  | nil => exact .inl rfl
  | cons x s ih =>
    cases t with
    | nil => exact .inr rfl
    | cons y t =>
      simp only [le, Bool.or_eq_true, Bool.and_eq_true, decide_eq_true_eq, beq_iff_eq]
      rcases Nat.lt_trichotomy x.code y.code with hlt | heq | hgt
      · exact .inl (.inl hlt)
      · obtain rfl := Symbol.code_injective heq
        exact (ih t).imp (fun h => .inr ⟨rfl, h⟩) fun h => .inr ⟨rfl, h⟩
      · exact .inr (.inl hgt)

theorem le_trans (hst : le s t = true) (htu : le t u = true) : le s u = true := by
  induction s generalizing t u with
  | nil => rfl
  | cons x s ih =>
    cases t with
    | nil => cases hst
    | cons y t =>
      cases u with
      | nil => cases htu
      | cons z u =>
        simp only [le, Bool.or_eq_true, Bool.and_eq_true, decide_eq_true_eq, beq_iff_eq]
          at hst htu ⊢
        rcases hst with hlt | ⟨rfl, hst⟩
        · rcases htu with hlt' | ⟨rfl, -⟩
          · exact .inl (Nat.lt_trans hlt hlt')
          · exact .inl hlt
        · rcases htu with hlt' | ⟨rfl, htu⟩
          · exact .inl hlt'
          · exact .inr ⟨rfl, ih hst htu⟩

theorem le_antisymm (hst : le s t = true) (hts : le t s = true) : s = t := by
  induction s generalizing t with
  | nil =>
    cases t with
    | nil => rfl
    | cons y t => cases hts
  | cons x s ih =>
    cases t with
    | nil => cases hst
    | cons y t =>
      simp only [le, Bool.or_eq_true, Bool.and_eq_true, decide_eq_true_eq, beq_iff_eq] at hst hts
      rcases hst with hlt | ⟨rfl, hst⟩
      · rcases hts with hlt' | ⟨rfl, -⟩
        · omega
        · omega
      · rcases hts with hlt' | ⟨-, hts⟩
        · omega
        · rw [ih hst hts]

end Text

namespace Json

/-- No number but integers, and no object with two fields of one key, at any depth. -/
inductive Exact : Json → Prop where
  | null : Exact .null
  | bool (b : Bool) : Exact (.bool b)
  | int (n : Int) : Exact (.int n)
  | str (t : Text) : Exact (.str t)
  | arr {items : List Json} : (∀ v ∈ items, Exact v) → Exact (.arr items)
  | obj {fields : List (Text × Json)} :
      (fields.map Prod.fst).Nodup → (∀ f ∈ fields, Exact f.2) → Exact (.obj fields)

attribute [simp] Exact.null Exact.bool Exact.int Exact.str

/-- Equal values, where the order of fields does not matter at any depth: objects are the same if
they have the same keys, with the same values. -/
inductive Same : Json → Json → Prop where
  | null : Same .null .null
  | bool (b : Bool) : Same (.bool b) (.bool b)
  | int (n : Int) : Same (.int n) (.int n)
  | real (x : Binary64) : Same (.real x) (.real x)
  | str (t : Text) : Same (.str t) (.str t)
  | arr {items items' : List Json} :
      items.length = items'.length →
      (∀ (i : Nat) v w, items[i]? = some v → items'[i]? = some w → Same v w) →
      Same (.arr items) (.arr items')
  | obj {fields fields' : List (Text × Json)} :
      (∀ key, getField? key fields = none ↔ getField? key fields' = none) →
      (∀ key v w, getField? key fields = some v → getField? key fields' = some w → Same v w) →
      Same (.obj fields) (.obj fields')

variable {v w : Json} {fields fields' : List (Text × Json)}

@[simp] theorem exact_arr_iff {items : List Json} :
    Exact (.arr items) ↔ ∀ v ∈ items, v.Exact := by
  refine ⟨fun h => ?_, .arr⟩
  cases h with
  | arr hitems => exact hitems

@[simp] theorem exact_obj_iff :
    Exact (.obj fields) ↔ (fields.map Prod.fst).Nodup ∧ ∀ f ∈ fields, f.2.Exact := by
  refine ⟨fun h => ?_, fun h => .obj h.1 h.2⟩
  cases h with
  | obj hnodup hvalues => exact ⟨hnodup, hvalues⟩

theorem same_str_iff {t u : Text} : Same (.str t) (.str u) ↔ t = u := by
  constructor
  · rintro ⟨⟩
    rfl
  · rintro rfl
    exact .str t

theorem Same.of_cons {key : Text} (h : key ∉ fields.map Prod.fst)
    (h' : key ∉ fields'.map Prod.fst)
    (hsame : Same (.obj ((key, v) :: fields)) (.obj ((key, w) :: fields'))) :
    Same (.obj fields) (.obj fields') := by
  rw [← getField?_eq_none_iff] at h h'
  cases hsame with
  | obj hkeys hvalues =>
    refine .obj (fun k => ?_) fun k x y hx hy => ?_
    · by_cases hk : key = k
      · rw [← hk, h, h']
      · simpa only [getField?, if_neg hk] using hkeys k
    · by_cases hk : key = k
      · rw [← hk, h] at hx
        cases hx
      · refine hvalues k x y ?_ ?_
        · rw [getField?, if_neg hk, hx]
        · rw [getField?, if_neg hk, hy]

theorem Same.cons (key : Text) (hv : v.Same w) (hsame : Same (.obj fields) (.obj fields')) :
    Same (.obj ((key, v) :: fields)) (.obj ((key, w) :: fields')) := by
  cases hsame with
  | obj hkeys hvalues =>
    refine .obj (fun k => ?_) fun k x y hx hy => ?_
    · rw [getField?, getField?]
      split
      · simp
      · exact hkeys k
    · rw [getField?] at hx hy
      split at hx
      · next hk =>
        rw [if_pos hk] at hy
        cases hx
        cases hy
        exact hv
      · next hk =>
        rw [if_neg hk] at hy
        exact hvalues k x y hx hy

theorem same_obj_cons_iff {key : Text} (h : key ∉ fields.map Prod.fst)
    (h' : key ∉ fields'.map Prod.fst) :
    Same (.obj ((key, v) :: fields)) (.obj ((key, w) :: fields')) ↔
      v.Same w ∧ Same (.obj fields) (.obj fields') := by
  refine ⟨fun hsame => ⟨?_, hsame.of_cons h h'⟩, fun hsame => .cons key hsame.1 hsame.2⟩
  cases hsame with
  | obj _ hvalues => exact hvalues key v w (if_pos rfl) (if_pos rfl)

/-! ## The sorted form -/

/-- The order of fields by their keys. -/
def fieldLe (f g : Text × Json) : Prop := Text.le f.1 g.1 = true

instance : DecidableRel fieldLe := fun f g => inferInstanceAs (Decidable (Text.le f.1 g.1 = true))

instance : Std.Total fieldLe := ⟨fun f g => Text.le_total f.1 g.1⟩

instance : IsTrans (Text × Json) fieldLe := ⟨fun _ _ _ => Text.le_trans⟩

theorem sortedItems_eq_map (items : List Json) : sortedItems items = items.map sorted := by
  induction items with
  | nil => rfl
  | cons v items ih => rw [sortedItems, ih, List.map_cons]

theorem insertSorted_eq_orderedInsert (f : Text × Json) (fields : List (Text × Json)) :
    insertSorted f fields = fields.orderedInsert fieldLe f := by
  induction fields with
  | nil => rfl
  | cons g fields ih => rw [insertSorted, List.orderedInsert_cons, ih]; rfl

/-- The fields with their values sorted. -/
def withSortedValues (fields : List (Text × Json)) : List (Text × Json) :=
  fields.map fun f => (f.1, f.2.sorted)

theorem keys_withSortedValues (fields : List (Text × Json)) :
    (withSortedValues fields).map Prod.fst = fields.map Prod.fst := by
  rw [withSortedValues, List.map_map]
  rfl

theorem sortedFields_eq_insertionSort (fields : List (Text × Json)) :
    sortedFields fields = (withSortedValues fields).insertionSort fieldLe := by
  induction fields with
  | nil => rfl
  | cons f fields ih =>
    rw [sortedFields, ih, insertSorted_eq_orderedInsert]
    rfl

theorem sortedFields_perm (fields : List (Text × Json)) :
    (sortedFields fields).Perm (withSortedValues fields) := by
  rw [sortedFields_eq_insertionSort]
  exact List.perm_insertionSort _ _

theorem nodup_keys_sortedFields (h : (fields.map Prod.fst).Nodup) :
    ((sortedFields fields).map Prod.fst).Nodup := by
  rw [((sortedFields_perm fields).map Prod.fst).nodup_iff, keys_withSortedValues]
  exact h

theorem getField?_withSortedValues (key : Text) (fields : List (Text × Json)) :
    getField? key (withSortedValues fields) = (getField? key fields).map sorted := by
  induction fields with
  | nil => rfl
  | cons f fields ih =>
    rw [withSortedValues, List.map_cons, getField?, getField?, ← withSortedValues, ih]
    split <;> rfl

theorem getField?_sortedFields (h : (fields.map Prod.fst).Nodup) (key : Text) :
    getField? key (sortedFields fields) = (getField? key fields).map sorted := by
  rw [getField?_of_perm ((keys_withSortedValues fields).symm ▸ h) (sortedFields_perm fields),
    getField?_withSortedValues]

/-- Fields of different keys have one sorted form for all orders. -/
theorem sortedFields_eq_of_perm (h : (fields.map Prod.fst).Nodup)
    (hperm : (withSortedValues fields).Perm (withSortedValues fields')) :
    sortedFields fields = sortedFields fields' := by
  rw [sortedFields_eq_insertionSort, sortedFields_eq_insertionSort]
  have hall : ((withSortedValues fields).insertionSort fieldLe).Perm
      ((withSortedValues fields').insertionSort fieldLe) :=
    (List.perm_insertionSort _ _).trans (hperm.trans (List.perm_insertionSort _ _).symm)
  refine hall.eq_of_pairwise (fun f g hf hg hfg hgf => ?_) (List.pairwise_insertionSort _ _)
    (List.pairwise_insertionSort _ _)
  have hnodup : ((withSortedValues fields).map Prod.fst).Nodup :=
    (keys_withSortedValues fields).symm ▸ h
  rw [List.mem_insertionSort] at hf
  rw [List.mem_insertionSort, ← hperm.mem_iff] at hg
  exact List.inj_on_of_nodup_map hnodup hf hg (Text.le_antisymm hfg hgf)

theorem sortedFields_eq_iff (h : (fields.map Prod.fst).Nodup)
    (h' : (fields'.map Prod.fst).Nodup) : sortedFields fields = sortedFields fields' ↔
      ∀ key, (getField? key fields).map sorted = (getField? key fields').map sorted := by
  constructor
  · intro heq key
    rw [← getField?_sortedFields h, heq, getField?_sortedFields h']
  · intro hsame
    have hkeys : ((withSortedValues fields).map Prod.fst).Nodup :=
      (keys_withSortedValues fields).symm ▸ h
    have hkeys' : ((withSortedValues fields').map Prod.fst).Nodup :=
      (keys_withSortedValues fields').symm ▸ h'
    refine sortedFields_eq_of_perm h ((List.perm_ext_iff_of_nodup hkeys.of_map hkeys'.of_map).mpr ?_)
    rintro ⟨key, v⟩
    rw [← getField?_eq_some_iff hkeys, ← getField?_eq_some_iff hkeys', getField?_withSortedValues,
      getField?_withSortedValues, hsame key]

namespace Exact

theorem sorted (h : v.Exact) : v.sorted.Exact := by
  induction h with
  | null => exact .null
  | bool b => exact .bool b
  | int n => exact .int n
  | str t => exact .str t
  | arr _ ih =>
    rw [Json.sorted, sortedItems_eq_map]
    exact .arr (List.forall_mem_map.mpr ih)
  | obj hnodup _ ih =>
    rw [Json.sorted]
    refine .obj (nodup_keys_sortedFields hnodup) fun f hf => ?_
    obtain ⟨g, hg, rfl⟩ := List.mem_map.mp ((sortedFields_perm _).mem_iff.mp hf)
    exact ih g hg

theorem nodup (h : Exact (.obj fields)) : (fields.map Prod.fst).Nodup := (exact_obj_iff.mp h).1

theorem of_getField? {key : Text} (h : Exact (.obj fields)) (hv : getField? key fields = some v) :
    v.Exact := by
  obtain ⟨hnodup, hvalues⟩ := exact_obj_iff.mp h
  exact hvalues _ ((getField?_eq_some_iff hnodup).mp hv)

theorem sorted_sorted (h : v.Exact) : v.sorted.sorted = v.sorted := by
  induction h with
  | null => rfl
  | bool b => rfl
  | int n => rfl
  | str t => rfl
  | arr _ ih =>
    simp only [Json.sorted, sortedItems_eq_map, List.map_map]
    exact congrArg Json.arr (List.map_congr_left ih)
  | @obj fields hnodup hvalues ih =>
    simp only [Json.sorted]
    refine congrArg Json.obj ?_
    rw [sortedFields_eq_iff (nodup_keys_sortedFields hnodup) hnodup]
    intro key
    rw [getField?_sortedFields hnodup]
    cases hv : getField? key fields with
    | none => rfl
    | some v => exact congrArg some (ih _ ((getField?_eq_some_iff hnodup).mp hv))

end Exact

/-! ## Values with one sorted form -/

theorem Same.sorted_eq (h : v.Same w) (hv : v.Exact) (hw : w.Exact) : v.sorted = w.sorted := by
  induction h with
  | null => rfl
  | bool b => rfl
  | int n => rfl
  | real x => rfl
  | str t => rfl
  | @arr items items' hlength _ ih =>
    cases hv with
    | arr hitems =>
      cases hw with
      | arr hitems' =>
        rw [Json.sorted, Json.sorted, sortedItems_eq_map, sortedItems_eq_map]
        refine congrArg Json.arr (List.ext_getElem (by simpa using hlength) fun i h h' => ?_)
        rw [List.getElem_map, List.getElem_map]
        exact ih i _ _ (List.getElem?_eq_getElem _) (List.getElem?_eq_getElem _)
          (hitems _ (List.getElem_mem _)) (hitems' _ (List.getElem_mem _))
  | @obj fields fields' hkeys _ ih =>
    rw [Json.sorted, Json.sorted, (sortedFields_eq_iff hv.nodup hw.nodup).mpr]
    intro key
    cases hv' : getField? key fields with
    | none => rw [(hkeys key).mp hv']
    | some v =>
      cases hw' : getField? key fields' with
      | none =>
        rw [(hkeys key).mpr hw'] at hv'
        cases hv'
      | some w => exact congrArg some (ih key v w hv' hw' (hv.of_getField? hv') (hw.of_getField? hw'))

theorem Exact.same_of_sorted_eq (hv : v.Exact) (hw : w.Exact) (h : v.sorted = w.sorted) :
    v.Same w := by
  induction hv generalizing w with
  | null =>
    cases hw <;> cases h
    exact .null
  | bool b =>
    cases hw <;> cases h
    exact .bool b
  | int n =>
    cases hw <;> cases h
    exact .int n
  | str t =>
    cases hw <;> cases h
    exact .str t
  | @arr items _ ih =>
    cases hw with
    | @arr items' hitems' =>
      simp only [Json.sorted, sortedItems_eq_map, Json.arr.injEq] at h
      refine .arr (by simpa using congrArg List.length h) fun i v w hv hw => ?_
      have hi := congrArg (·[i]?) h
      simp only [List.getElem?_map, hv, hw, Option.map_some, Option.some.injEq] at hi
      exact ih v (List.mem_of_getElem? hv) (hitems' w (List.mem_of_getElem? hw)) hi
    | _ => cases h
  | @obj fields hnodup _ ih =>
    cases hw with
    | @obj fields' hnodup' hvalues' =>
      simp only [Json.sorted, Json.obj.injEq] at h
      have hsame := (sortedFields_eq_iff hnodup hnodup').mp h
      refine .obj (fun key => ?_) fun key v w hv hw => ?_
      · rw [← Option.map_eq_none_iff (f := Json.sorted), hsame key, Option.map_eq_none_iff]
      · have hkey := hsame key
        rw [hv, hw, Option.map_some, Option.map_some, Option.some.injEq] at hkey
        exact ih _ ((getField?_eq_some_iff hnodup).mp hv)
          (hvalues' _ ((getField?_eq_some_iff hnodup').mp hw)) hkey
    | _ => cases h

/-- Exact values are the same if and only if they have one sorted form. -/
theorem sorted_eq_iff (hv : v.Exact) (hw : w.Exact) : v.sorted = w.sorted ↔ v.Same w :=
  ⟨hv.same_of_sorted_eq hw, fun h => h.sorted_eq hv hw⟩

theorem same_sorted (hv : v.Exact) : v.sorted.Same v :=
  (sorted_eq_iff hv.sorted hv).mp hv.sorted_sorted

end Json

end SearchTemplate
