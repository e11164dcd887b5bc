import Mathlib.Algebra.Group.Nat.Defs
import SearchTemplate.Json.Printer
import SearchTemplate.Proofs.Json.Sorted

/-!
# Values that can be written

A value is written exactly if it fits (`Json.writeFault?_eq_none_iff`): its integers have at most
`Number.maxDigits` digits, and its arrays and objects lie no deeper in one another than there is
room for. A value that is not written fails for one of these two reasons
(`Json.reason_of_writeFault?`), the order of its fields does not count (`Json.fits_sorted_iff`), and
there is no room that is enough for all values (`Json.writeFault?_nested`).
-/

namespace SearchTemplate

theorem Number.isTooLong_iff {n : Int} :
    Number.isTooLong n = true ↔ 10 ^ Number.maxDigits ≤ n.natAbs := by
  rw [Number.isTooLong, Text.ofNat, List.length_map, decide_eq_true_eq, ← Nat.not_le,
    Nat.length_toDigits_le_iff (by decide) (by decide), Nat.not_lt]

namespace Json

/-- No integer in it, at any depth, has too many digits. -/
inductive Short : Json → Prop where
  | null : Short .null
  | bool (b : Bool) : Short (.bool b)
  | int {n : Int} : n.natAbs < 10 ^ Number.maxDigits → Short (.int n)
  | real (x : Binary64) : Short (.real x)
  | str (t : Text) : Short (.str t)
  | arr {items : List Json} : (∀ v ∈ items, Short v) → Short (.arr items)
  | obj {fields : List (Text × Json)} : (∀ f ∈ fields, Short f.2) → Short (.obj fields)

mutual

/-- The most arrays and objects inside of one another. -/
def depth : Json → Nat
  | .arr items => itemsDepth items + 1
  | .obj fields => fieldsDepth fields + 1
  | .null => 0
  | .bool _ => 0
  | .int _ => 0
  | .real _ => 0
  | .str _ => 0

def itemsDepth : List Json → Nat
  | [] => 0
  | v :: rest => max v.depth (itemsDepth rest)

def fieldsDepth : List (Text × Json) → Nat
  | [] => 0
  | (_, v) :: rest => max v.depth (fieldsDepth rest)

end

/-- A value that can be written where there is room for `room` arrays and objects. -/
structure Fits (room : Nat) (v : Json) : Prop where
  short : v.Short
  depth_le : v.depth ≤ room

/-- What is wrong with a value that cannot be written. -/
def WriteFault.Reason (room : Nat) (v : Json) : WriteFault → Prop
  | .tooLong => ¬v.Short
  | .tooDeep => room < v.depth

attribute [simp] Short.null Short.bool Short.real Short.str

variable {room : Nat} {v : Json} {items : List Json} {fields : List (Text × Json)}
  {fault : WriteFault}

@[simp] theorem short_int_iff {n : Int} : Short (.int n) ↔ n.natAbs < 10 ^ Number.maxDigits := by
  refine ⟨fun h => ?_, .int⟩
  cases h with
  | int hn => exact hn

@[simp] theorem short_arr_iff : Short (.arr items) ↔ ∀ v ∈ items, v.Short := by
  refine ⟨fun h => ?_, .arr⟩
  cases h with
  | arr hitems => exact hitems

@[simp] theorem short_obj_iff : Short (.obj fields) ↔ ∀ f ∈ fields, f.2.Short := by
  refine ⟨fun h => ?_, .obj⟩
  cases h with
  | obj hfields => exact hfields

theorem itemsDepth_le_iff : itemsDepth items ≤ room ↔ ∀ v ∈ items, v.depth ≤ room := by
  induction items with
  | nil => simp [itemsDepth]
  | cons v items ih => rw [itemsDepth, Nat.max_le, ih, List.forall_mem_cons]

@[simp] theorem depth_arr_le_succ_iff :
    (arr items).depth ≤ room + 1 ↔ ∀ v ∈ items, v.depth ≤ room := by
  rw [depth, Nat.add_le_add_iff_right, itemsDepth_le_iff]

/-- An object is as deep as the array of its values. -/
theorem depth_obj (fields : List (Text × Json)) :
    (obj fields).depth = (arr (fields.map Prod.snd)).depth := by
  have hfields : fieldsDepth fields = itemsDepth (fields.map Prod.snd) := by
    induction fields with
    | nil => rfl
    | cons f fields ih => rw [fieldsDepth, ih, List.map_cons, itemsDepth]
  rw [depth, depth, hfields]

@[simp] theorem depth_obj_le_succ_iff :
    (obj fields).depth ≤ room + 1 ↔ ∀ f ∈ fields, f.2.depth ≤ room := by
  rw [depth_obj, depth_arr_le_succ_iff, List.forall_mem_map]

/-- What is wrong with an object is wrong with the array of its values. -/
theorem writeFault?_obj (room : Nat) (fields : List (Text × Json)) :
    (obj fields).writeFault? room = (arr (fields.map Prod.snd)).writeFault? room := by
  cases room with
  | zero => rfl
  | succ room =>
    rw [writeFault?, writeFault?]
    induction fields with
    | nil => rfl
    | cons f fields ih => rw [fieldsFault?, ih, List.map_cons, itemsFault?]

theorem reason_obj_iff : fault.Reason room (.obj fields) ↔
    fault.Reason room (.arr (fields.map Prod.snd)) := by
  cases fault with
  | tooLong =>
    refine not_congr ?_
    rw [short_obj_iff, short_arr_iff, List.forall_mem_map]
  | tooDeep =>
    change room < _ ↔ room < _
    rw [depth_obj]

theorem fits_iff : v.Fits room ↔ v.Short ∧ v.depth ≤ room :=
  ⟨fun h => ⟨h.short, h.depth_le⟩, fun h => ⟨h.1, h.2⟩⟩

theorem fits_obj_succ_iff : (obj fields).Fits (room + 1) ↔ ∀ f ∈ fields, f.2.Fits room := by
  simp [fits_iff, forall_and]

/-! ## What is written -/

theorem itemsFault?_eq_none_iff :
    itemsFault? room items = none ↔ ∀ v ∈ items, writeFault? room v = none := by
  induction items with
  | nil => simp [itemsFault?]
  | cons v items ih => rw [itemsFault?, Option.or_eq_none_iff, ih, List.forall_mem_cons]

/-- **The values that can be written.** -/
theorem writeFault?_eq_none_iff : v.writeFault? room = none ↔ v.Fits room := by
  rw [fits_iff]
  -- The values inside of a collection have less room, so the induction is on the room.
  induction room generalizing v with
  | zero => cases v <;> simp [writeFault?, Number.isTooLong_iff, depth]
  | succ room ih =>
    cases v with
    | arr items => simp [writeFault?, itemsFault?_eq_none_iff, ih, forall_and]
    | obj fields =>
      rw [writeFault?_obj, writeFault?, itemsFault?_eq_none_iff, List.forall_mem_map]
      simp [ih, forall_and]
    | _ => simp [writeFault?, Number.isTooLong_iff, depth]

theorem exists_of_itemsFault? (h : itemsFault? room items = some fault) :
    ∃ v ∈ items, writeFault? room v = some fault := by
  induction items with
  | nil => cases h
  | cons v items ih =>
    rw [itemsFault?, Option.or_eq_some_iff] at h
    rcases h with h | ⟨-, h⟩
    · exact ⟨v, List.mem_cons_self, h⟩
    · obtain ⟨w, hw, h⟩ := ih h
      exact ⟨w, List.mem_cons_of_mem v hw, h⟩

/-- A fault has its reason in an array if it has it in one of the items. -/
theorem WriteFault.Reason.arr {room : Nat} (hv : v ∈ items) (h : fault.Reason room v) :
    fault.Reason (room + 1) (.arr items) := by
  cases fault with
  | tooLong => exact fun hshort => h (short_arr_iff.mp hshort v hv)
  | tooDeep =>
    exact Nat.lt_of_not_le fun hle => Nat.not_lt.mpr (depth_arr_le_succ_iff.mp hle v hv) h

theorem reason_int {n : Int} (h : (int n).writeFault? room = some fault) :
    fault.Reason room (.int n) := by
  obtain ⟨hlong, rfl⟩ : Number.isTooLong n = true ∧ .tooLong = fault := by
    simpa [writeFault?] using h
  exact fun hshort => Nat.not_lt.mpr (Number.isTooLong_iff.mp hlong) (short_int_iff.mp hshort)

/-- **Why a value is not written.** -/
theorem reason_of_writeFault? (h : v.writeFault? room = some fault) : fault.Reason room v := by
  induction room generalizing v with
  | zero =>
    cases v with
    | int n => exact reason_int h
    | arr items =>
      cases h
      exact Nat.succ_pos _
    | obj fields =>
      cases h
      exact Nat.succ_pos _
    | _ => cases h
  | succ room ih =>
    cases v with
    | int n => exact reason_int h
    | arr items =>
      obtain ⟨v, hv, hfault⟩ := exists_of_itemsFault? h
      exact (ih hfault).arr hv
    | obj fields =>
      rw [writeFault?_obj] at h
      obtain ⟨v, hv, hfault⟩ := exists_of_itemsFault? h
      exact reason_obj_iff.mpr ((ih hfault).arr hv)
    | _ => cases h

theorem write_of_fits (h : v.Fits room) : v.write room = .ok v.print := by
  rw [write, writeFault?_eq_none_iff.mpr h]

theorem write_of_fault (h : v.writeFault? room = some fault) : v.write room = .error fault := by
  rw [write, h]

theorem write_of_not_fits (h : ¬v.Fits room) :
    ∃ fault, v.write room = .error fault ∧ fault.Reason room v := by
  rw [← writeFault?_eq_none_iff, ← ne_eq, Option.ne_none_iff_exists'] at h
  obtain ⟨fault, hfault⟩ := h
  exact ⟨fault, write_of_fault hfault, reason_of_writeFault? hfault⟩

/-! ## Order -/

theorem depth_sorted_le_iff : v.sorted.depth ≤ room ↔ v.depth ≤ room := by
  induction room generalizing v with
  | zero => cases v <;> simp [sorted, depth]
  | succ room ih =>
    cases v with
    | arr items => simp [sorted, sortedItems_eq_map, ih]
    | obj fields =>
      rw [sorted, depth_obj_le_succ_iff, depth_obj_le_succ_iff]
      simp only [(sortedFields_perm fields).mem_iff, withSortedValues, List.forall_mem_map, ih]
    | _ => simp [sorted, depth]

theorem short_sorted_iff : v.sorted.Short ↔ v.Short := by
  -- Sorting goes down into the values, whose depth bounds the induction.
  obtain ⟨room, hroom⟩ : ∃ room, v.depth ≤ room := ⟨_, Nat.le_refl _⟩
  induction room generalizing v with
  | zero => cases v <;> first | rfl | cases hroom
  | succ room ih =>
    cases v with
    | arr items =>
      rw [depth_arr_le_succ_iff] at hroom
      simp only [sorted, sortedItems_eq_map, short_arr_iff, List.forall_mem_map]
      exact forall₂_congr fun v hv => ih (hroom v hv)
    | obj fields =>
      rw [depth_obj_le_succ_iff] at hroom
      simp only [sorted, short_obj_iff, (sortedFields_perm fields).mem_iff, withSortedValues,
        List.forall_mem_map]
      exact forall₂_congr fun f hf => ih (hroom f hf)
    | _ => rfl

theorem fits_sorted_iff : v.sorted.Fits room ↔ v.Fits room := by
  rw [fits_iff, fits_iff, short_sorted_iff, depth_sorted_le_iff]

theorem reason_sorted_iff : fault.Reason room v.sorted ↔ fault.Reason room v := by
  cases fault with
  | tooLong => exact not_congr short_sorted_iff
  | tooDeep => exact lt_iff_lt_of_le_iff_le depth_sorted_le_iff

/-! ## Depth -/

/-- Arrays inside of one another, one more than `n`. -/
def nested : Nat → Json
  | 0 => .arr []
  | n + 1 => .arr [nested n]

theorem exact_nested (n : Nat) : (nested n).Exact := by
  induction n with
  | zero => simp [nested]
  | succ n ih => simp [nested, ih]

theorem sorted_nested (n : Nat) : (nested n).sorted = nested n := by
  induction n with
  | zero => rfl
  | succ n ih => rw [nested, sorted, sortedItems, ih, sortedItems]

theorem writeFault?_nested (room : Nat) : (nested room).writeFault? room = some .tooDeep := by
  induction room with
  | zero => rfl
  | succ room ih => rw [nested, writeFault?, itemsFault?, ih, Option.some_or]

end Json

end SearchTemplate
