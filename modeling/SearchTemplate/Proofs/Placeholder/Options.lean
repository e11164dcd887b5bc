import Mathlib.Data.List.Induction
import SearchTemplate.Placeholder.Scan
import SearchTemplate.Proofs.Placeholder.Rules

/-!
# The options that a row of directives sets

Directives take effect one after the other. What a whole row comes to is said without an order of
steps in `Options.ofRow`: the query that is named last, the words in the order in which they are
written, and what one directive of the row is enough for. Taking the directives in order gives these
options (`Options.foldl_apply_eq_ofRow`).

An option string is refused if it is not made of directives, or at the first bad one, and sets the
options of its row otherwise (`Placeholder.readOptions_in_order`).
-/

namespace SearchTemplate

namespace Directive

def query? : Directive → Option Int
  | query position => some position
  | _ => none

/-- The word that the directive keeps, counted from zero. -/
def word? : Directive → Option Int
  | word (some position) => some ((position : Int) - 1)
  | _ => none

/-- The word that the directive puts in upper case, counted from zero. -/
def upper? : Directive → Option Int
  | upper (some position) => some ((position : Int) - 1)
  | _ => none

end Directive

namespace Uppercase

variable {ds : List Directive} {d : Directive}

/-- The words that a row of directives puts in upper case. -/
def ofRow (ds : List Directive) : Uppercase :=
  if .upper none ∈ ds then .allWords else .positions (ds.filterMap Directive.upper?)

theorem ofRow_concat_all (ds : List Directive) : ofRow (ds ++ [.upper none]) = .allWords :=
  if_pos (by simp)

theorem ofRow_concat_at (ds : List Directive) (n : Nat) :
    ofRow (ds ++ [.upper (some n)]) = (ofRow ds).add ((n : Int) - 1) := by
  by_cases hall : .upper none ∈ ds
  · rw [ofRow, ofRow, if_pos hall, if_pos (List.mem_append_left _ hall), add]
  · rw [ofRow, ofRow, if_neg hall, if_neg (by simp [hall]), List.filterMap_append, add]
    rfl

theorem ofRow_concat_of_ne (h : ∀ n, d ≠ .upper n) : ofRow (ds ++ [d]) = ofRow ds := by
  have hnone : d.upper? = none := by
    cases d with
    | upper n => exact absurd rfl (h n)
    | _ => rfl
  have hmem : .upper none ∈ ds ++ [d] ↔ .upper none ∈ ds := by simp [(h none).symm]
  simp only [ofRow, hmem, List.filterMap_append, List.filterMap_cons_none hnone,
    List.filterMap_nil, List.append_nil]

end Uppercase

namespace Options

open Directive

/-- What a row of directives sets. -/
def ofRow (ds : List Directive) : Options where
  queryPosition := (ds.filterMap query?).getLast?
  wordPositions := ds.filterMap word?
  uppercase := .ofRow ds
  capitalize := decide (.capitalize ∈ ds)
  reverse := decide (.reverse ∈ ds)
  stripCommas := decide (.stripCommas ∈ ds)

/-- One more directive at the end takes effect after the others. -/
theorem ofRow_concat (ds : List Directive) (d : Directive) :
    ofRow (ds ++ [d]) = (ofRow ds).apply d := by
  cases d with
  | query n => simp [ofRow, apply, query?, word?, Uppercase.ofRow_concat_of_ne]
  | word n => cases n <;> simp [ofRow, apply, query?, word?, Uppercase.ofRow_concat_of_ne]
  | upper n =>
    cases n with
    | none => simp [ofRow, apply, query?, word?, Uppercase.ofRow_concat_all]
    | some n => simp [ofRow, apply, query?, word?, Uppercase.ofRow_concat_at]
  | capitalize | reverse | stripCommas =>
    simp [ofRow, apply, query?, word?, Uppercase.ofRow_concat_of_ne]

theorem foldl_apply_eq_ofRow (ds : List Directive) : ds.foldl apply {} = ofRow ds := by
  induction ds using List.reverseRecOn with
  | nil => rfl
  | append_singleton ds d ih =>
    rw [List.foldl_append, ih, List.foldl_cons, List.foldl_nil, ofRow_concat]

end Options

namespace Placeholder

open Directive

variable {c : Config} {p : Placeholder} {bodies : List Text} {ds : List Directive} {f : Fault}

theorem readOptions_eq_error_iff (h : Written p.options bodies ds) :
    p.readOptions c = .error f ↔ FirstBad c.maxPlaceholders ds f := by
  rw [readOptions_of_row (row_iff_written.mpr ⟨bodies, h⟩), Options.ofDirectives_eq_error_iff]

theorem readOptions_eq_ok_iff (h : Written p.options bodies ds) {o : Options} :
    p.readOptions c = .ok o ↔
      (∀ d ∈ ds, ∀ f, ¬ d.Bad c.maxPlaceholders f) ∧ o = Options.ofRow ds := by
  rw [readOptions_of_row (row_iff_written.mpr ⟨bodies, h⟩), Options.ofDirectives_eq_ok_iff,
    Options.foldl_apply_eq_ofRow, eq_comm (a := o)]

theorem readOptions_eq_invalidOptions_iff :
    p.readOptions c = .error .invalidOptions ↔ ∀ bodies ds, ¬ Written p.options bodies ds := by
  constructor
  · intro h bodies ds hwritten
    obtain ⟨_, _, _, -, hbad, -⟩ := (readOptions_eq_error_iff hwritten).mp h
    cases hbad
  · intro h
    refine readOptions_of_not_row fun ds hrow => ?_
    obtain ⟨bodies, hwritten⟩ := row_iff_written.mp hrow
    exact h bodies ds hwritten

/-- **Options are read in order.** An option string that is not made of directives is refused as a
whole. One that is made of directives is so in one way only: the first bad directive is reported,
and if there is none, the row of directives sets the options. -/
theorem readOptions_in_order (c : Config) (p : Placeholder) :
    (p.readOptions c = .error .invalidOptions ↔ ∀ bodies ds, ¬ Written p.options bodies ds) ∧
      ∀ bodies ds, Written p.options bodies ds →
        (∀ bodies' ds', Written p.options bodies' ds' → bodies' = bodies ∧ ds' = ds) ∧
        (∀ f, p.readOptions c = .error f ↔ FirstBad c.maxPlaceholders ds f) ∧
        ∀ o, p.readOptions c = .ok o ↔
          (∀ d ∈ ds, ∀ f, ¬ d.Bad c.maxPlaceholders f) ∧ o = Options.ofRow ds := by
  refine ⟨readOptions_eq_invalidOptions_iff, fun bodies ds h => ⟨?_, ?_, ?_⟩⟩
  · intro bodies' ds' h'
    exact h'.unique h
  · intro f
    exact readOptions_eq_error_iff h
  · intro o
    exact readOptions_eq_ok_iff h

/-- A placeholder with the given options, the first one of its URL. -/
def withOptions (options : Text) : Placeholder :=
  let body : Placeholder.Body := ⟨options, .ofString "+"⟩
  ⟨.ofString "a", options, body.delimiter, 1, body.write⟩

def overridingBodies : List Text :=
  [.ofString "W2", .ofString "08", .ofString "U3", .ofString "U", .ofString "C", .ofString "W0",
    .ofString "1", .ofString "M"]

def overridingRow : List Directive :=
  [.word (some 2), .query 8, .upper (some 3), .upper none, .capitalize, .word (some 0), .query 1,
    .stripCommas]

/-- Directives that override others, a row with two bad directives, and no row at all. -/
theorem readOptions_in_order_overriding :
    Written (.ofString "!W2!08!U3!U!C!W0!1!M") overridingBodies overridingRow ∧
      (withOptions (.ofString "!W2!08!U3!U!C!W0!1!M")).readOptions .standard =
        .ok ⟨some 1, [1, -1], .allWords, true, false, true⟩ ∧
      (withOptions (.ofString "!R!00!W")).readOptions .standard =
        .error (.queryOutOfRange 0 8) ∧
      ∀ bodies ds, ¬ Written (.ofString "!R!123") bodies ds := by
  have hwritten : Written (.ofString "!W2!08!U3!U!C!W0!1!M") overridingBodies overridingRow :=
    ⟨by decide, mapM_ofBody?_eq_some_iff.mp (by decide)⟩
  have hgood : ∀ d ∈ overridingRow, d.fault? Config.standard.maxPlaceholders = none := by decide
  have hbad : Written (.ofString "!R!00!W") [.ofString "R", .ofString "00", .ofString "W"]
      [.reverse, .query 0, .word none] :=
    ⟨by decide, mapM_ofBody?_eq_some_iff.mp (by decide)⟩
  have hfirst : FirstBad Config.standard.maxPlaceholders [.reverse, .query 0, .word none]
      (.queryOutOfRange 0 8) :=
    ⟨[.reverse], .query 0, [.word none], rfl, .query (by decide),
      List.forall_mem_singleton.mpr (fault?_eq_none_iff.mp rfl)⟩
  refine ⟨hwritten, ?_, ?_, ?_⟩
  · exact (((readOptions_in_order .standard (withOptions _)).2 _ _ hwritten).2.2 _).mpr
      ⟨fun d hd => fault?_eq_none_iff.mp (hgood d hd), rfl⟩
  · exact (((readOptions_in_order .standard (withOptions _)).2 _ _ hbad).2.1 _).mpr hfirst
  · exact (readOptions_in_order .standard (withOptions (.ofString "!R!123"))).1.mp (by decide)

end Placeholder

end SearchTemplate
