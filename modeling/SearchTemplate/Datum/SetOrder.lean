import SearchTemplate.Datum.Basic

/-!
# The order of sets

The members of a set come in the order of their places in a table. The place of a number follows
from its remainder, unless it is taken already (`Datum.freePlace`). Other members have other places
each time a program runs, so a set that has one keeps the order in which it is written.
-/

namespace SearchTemplate.Datum

/-- The remainder that gives a number its place, with the sign of the number. It is never `-1`. -/
def placeKey (n : Int) : Int :=
  let r := n.tmod (.pow 2 61 - 1)
  if r = -1 then -2 else r

/-- How many places there are for the members of a set. -/
def tableSize (members : Nat) : Nat := if members < 5 then 8 else .pow 2 ((2 * members).log2 + 1)

/-- The places that are tried together with a place. -/
def nearPlaces (size place : Nat) : List Nat :=
  if place + 9 < size then (List.range 10).map (place + ·) else [place]

/-- The first place that is not taken, from `place` on. What is left of the key sends it on. -/
def freePlaceFrom (size : Nat) (taken : List Nat) : Nat → Nat → Nat → Nat
  | 0, place, _ => place
  | fuel + 1, place, key =>
    match (nearPlaces size place).find? fun p => !taken.contains p with
    | some p => p
    | none => freePlaceFrom size taken fuel ((place * 5 + 1 + key / 32) % size) (key / 32)

def freePlace (size : Nat) (taken : List Nat) (n : Int) : Nat :=
  let key := (placeKey n % .pow 2 64).toNat
  freePlaceFrom size taken (size + 14) (key % size) key

/-- Puts a member in the order of places. -/
def insertPlaced (m : Nat × Datum) : List (Nat × Datum) → List (Nat × Datum)
  | [] => [m]
  | m' :: rest => if m.1 < m'.1 then m :: m' :: rest else m' :: insertPlaced m rest

/-- The members with their places, in the order of places. -/
def placed (items : List Datum) : List (Nat × Datum) :=
  items.foldl (fun table d =>
    insertPlaced
      (freePlace (tableSize items.length) (table.map Prod.fst) (d.integer?.getD 0), d) table) []

/-- The members of a set that is written with `items`, in the order of the set. -/
def inSetOrder (items : List Datum) : List Datum :=
  if items.all fun d => d.integer?.isSome then (placed items).map Prod.snd else items

theorem insertPlaced_perm (m : Nat × Datum) (table : List (Nat × Datum)) :
    (insertPlaced m table).Perm (m :: table) := by
  induction table with
  | nil => exact .refl _
  | cons m' table ih =>
    rw [insertPlaced]
    split
    · exact .refl _
    · exact (ih.cons m').trans (.swap m m' table)

/-- A set has the members that it is written with. -/
theorem inSetOrder_perm (items : List Datum) : (inSetOrder items).Perm items := by
  have hfold (size : Nat) (items : List Datum) (table : List (Nat × Datum)) :
      ((items.foldl (fun table d =>
        insertPlaced (freePlace size (table.map Prod.fst) (d.integer?.getD 0), d) table)
        table).map Prod.snd).Perm (table.map Prod.snd ++ items) := by
    induction items generalizing table with
    | nil => simp
    | cons d items ih =>
      refine (ih _).trans ?_
      have hinsert := (insertPlaced_perm
        (freePlace size (table.map Prod.fst) (d.integer?.getD 0), d) table).map Prod.snd
      exact (hinsert.append_right items).trans List.perm_middle.symm
  rw [inSetOrder]
  split
  · exact hfold _ items []
  · exact .refl _

/-- Remainders by eight put 65 in front of 90, and 8 behind 0, which comes first. -/
example : inSetOrder [.int 90, .int 65] = [.int 65, .int 90] ∧
    inSetOrder [.int 0, .int 8] = [.int 0, .int 8] := ⟨rfl, rfl⟩

end SearchTemplate.Datum
