import SearchTemplate.Number.Binary64
import SearchTemplate.Text.Symbol

/-!
# JSON values

Objects keep their fields in order. `Json.sorted` puts the fields of all objects, at every depth,
in the order of their keys; two values that differ only in the order of fields have the same
sorted form.
-/

namespace SearchTemplate

inductive Json where
  | null
  | bool (b : Bool)
  | int (n : Int)
  | real (x : Binary64)
  | str (t : Text)
  | arr (items : List Json)
  | obj (fields : List (Text × Json))
  deriving Repr, Inhabited

namespace Json

def string (s : String) : Json := .str (.ofString s)

/-- An object with keys written as strings. -/
def ofFields (fields : List (String × Json)) : Json :=
  .obj (fields.map fun f => (Text.ofString f.1, f.2))

/-- Sets a field: in its place if the key is there already, else at the end. -/
def setField (key : Text) (value : Json) : List (Text × Json) → List (Text × Json)
  | [] => [(key, value)]
  | (k, v) :: rest =>
    if k = key then (k, value) :: rest else (k, v) :: setField key value rest

def getField? (key : Text) : List (Text × Json) → Option Json
  | [] => none
  | (k, v) :: rest => if k = key then some v else getField? key rest

section

variable {key : Text} {v : Json} {fields fields' : List (Text × Json)}

/-- Where all keys differ, a field is found wherever it stands. -/
theorem getField?_eq_some_iff (hnodup : (fields.map Prod.fst).Nodup) :
    getField? key fields = some v ↔ (key, v) ∈ fields := by
  induction fields with
  | nil => simp [getField?]
  | cons f fields ih =>
    obtain ⟨k, w⟩ := f
    rw [List.map_cons, List.nodup_cons] at hnodup
    rw [getField?, List.mem_cons, Prod.mk.injEq]
    by_cases hk : k = key
    · subst hk
      have hnot : (k, v) ∉ fields := fun hmem => hnodup.1 (List.mem_map.mpr ⟨_, hmem, rfl⟩)
      simp [hnot, eq_comm]
    · simp [hk, Ne.symm hk, ih hnodup.2]

theorem getField?_eq_none_iff : getField? key fields = none ↔ key ∉ fields.map Prod.fst := by
  induction fields with
  | nil => simp [getField?]
  | cons f fields ih =>
    rw [getField?, List.map_cons, List.mem_cons]
    by_cases hk : f.1 = key
    · simp [hk]
    · simp [hk, Ne.symm hk, ih]

theorem getField?_of_perm (hnodup : (fields.map Prod.fst).Nodup) (h : fields'.Perm fields) :
    getField? key fields' = getField? key fields := by
  have hnodup' : (fields'.map Prod.fst).Nodup := (h.map Prod.fst).nodup_iff.mpr hnodup
  refine Option.ext fun v => ?_
  rw [getField?_eq_some_iff hnodup, getField?_eq_some_iff hnodup', h.mem_iff]

theorem setField_of_not_mem (h : key ∉ fields.map Prod.fst) (v : Json) :
    setField key v fields = fields ++ [(key, v)] := by
  induction fields with
  | nil => rfl
  | cons f fields ih =>
    rw [List.map_cons, List.mem_cons, not_or] at h
    rw [setField, if_neg (Ne.symm h.1), ih h.2, List.cons_append]

end

/-- Inserts a field into fields sorted by their keys. -/
def insertSorted (field : Text × Json) : List (Text × Json) → List (Text × Json)
  | [] => [field]
  | f :: rest =>
    if Text.le field.1 f.1 then field :: f :: rest else f :: insertSorted field rest

mutual

def sorted : Json → Json
  | .arr items => .arr (sortedItems items)
  | .obj fields => .obj (sortedFields fields)
  | .null => .null
  | .bool b => .bool b
  | .int n => .int n
  | .real x => .real x
  | .str t => .str t

def sortedItems : List Json → List Json
  | [] => []
  | v :: rest => v.sorted :: sortedItems rest

def sortedFields : List (Text × Json) → List (Text × Json)
  | [] => []
  | (k, v) :: rest => insertSorted (k, v.sorted) (sortedFields rest)

end

end Json

end SearchTemplate
