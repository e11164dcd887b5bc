import SearchTemplate.Proofs.Engine.Endings
import SearchTemplate.Proofs.Percent.Reading
import SearchTemplate.Proofs.Query.Render

/-!
# Rendering a query in one pass

Escaping a query and putting the delimiter in place of its blanks are two passes, the second over
percent forms already written. They are one pass over the readings of the query
(`Query.render_eq_written`), as percent forms hold no blank: what is written for a reading is a
whole copy of the delimiter, or else what escaping writes for it, without a blank
(`Query.writeSpaced_cases`).

Under a configuration this needs the unsafe set for queries, which does not exist if a range goes
past the last code (`Query.render_onePass_iff`).
-/

namespace SearchTemplate.Query

open Percent

/-- What a reading of a query gives where `d` stands for the blanks. -/
def writeSpaced (u : UnsafeSet) (d : Text) (r : Mode × Symbol) : Text :=
  if r.1 = .normal ∧ u.covers r.2 then symbolForm r.2 else if r.2.isBlank then d else [r.2]

/-- The reading is of a blank that escaping leaves. -/
def LeavesBlank (u : UnsafeSet) (r : Mode × Symbol) : Prop :=
  ¬ (r.1 = .normal ∧ u.covers r.2) ∧ r.2.isBlank = true

/-- The delimiter in place of the blanks that escaping writes for a reading. -/
theorem flatMap_writeReading (u : UnsafeSet) (d : Text) (r : Mode × Symbol) :
    (writeReading u r).flatMap (fun s => if s.isBlank then d else [s]) = writeSpaced u d r := by
  unfold writeReading writeSpaced
  split
  · exact flatMap_symbolForm d r.2
  · simp

theorem render_eq_written (u : UnsafeSet) (d q : Text) :
    render u d q = (readings .normal q).flatMap (writeSpaced u d) := by
  rw [render, escape_eq_flatMap, List.flatMap_assoc]
  exact List.flatMap_congr fun r _ => flatMap_writeReading u d r

/-- The delimiter stands for a kept blank too, and its own blank is left alone. -/
example : render Config.standard.querySet (.ofString "\\1 ") (.ofString "a\\\\\u00a0\u00a0 b") =
    .ofString "a\\1 %C2%A0\\1 b" := by decide

/-- A copy of the delimiter stands for a blank, and there is no other blank. -/
theorem writeSpaced_cases (u : UnsafeSet) (d : Text) (r : Mode × Symbol) :
    (LeavesBlank u r ∧ writeSpaced u d r = d) ∨
      (writeSpaced u d r = writeReading u r ∧ ∀ s ∈ writeReading u r, s.isBlank = false) := by
  unfold LeavesBlank writeSpaced writeReading
  by_cases hform : r.1 = .normal ∧ u.covers r.2
  · right
    rw [if_pos hform, if_pos hform]
    exact ⟨rfl, fun s hs => Symbol.isBlank_of_isPlain (isPlain_of_mem_symbolForm hs)⟩
  · rw [if_neg hform, if_neg hform]
    by_cases hblank : r.2.isBlank = true
    · exact .inl ⟨⟨hform, hblank⟩, if_pos hblank⟩
    · right
      rw [if_neg hblank, List.forall_mem_singleton]
      exact ⟨rfl, Bool.eq_false_iff.mpr hblank⟩

/-- **Rendering a query is one pass.** Under a configuration without a range past the last code, and
under no other, a query is rendered as its readings say: the percent form of an unsafe symbol, the
delimiter for a blank that is left, and any other symbol itself. Each copy of the delimiter is
whole, and what escaping writes stays as it is where it is no blank. -/
theorem render_onePass_iff (c : Config) (d q : Text) :
    (c.queryUnsafe.map (render · d q) =
        .ok ((readings .normal q).flatMap (writeSpaced c.querySet d)) ↔ c.Encodable) ∧
      ∀ r, (LeavesBlank c.querySet r ∧ writeSpaced c.querySet d r = d) ∨
        (writeSpaced c.querySet d r = writeReading c.querySet r ∧
          ∀ s ∈ writeReading c.querySet r, s.isBlank = false) := by
  refine ⟨?_, writeSpaced_cases c.querySet d⟩
  rw [map_eq_ok_iff]
  constructor
  · rintro ⟨u, hu, -⟩
    exact (Config.queryUnsafe_eq_ok_iff.mp hu).1
  · intro hc
    exact ⟨c.querySet, Config.queryUnsafe_eq hc, render_eq_written c.querySet d q⟩

/-- Validation accepts a configuration under which no query is rendered. -/
theorem not_rendered_pastLastCode : Config.ofDatum Engine.pastLastCode = .ok Engine.unencodable ∧
    Engine.unencodable.queryUnsafe.map (render · (Text.ofString "+") (Text.ofString "a")) =
      .error ⟨0x110000⟩ ∧
    Engine.unencodable.queryUnsafe.map (render · (Text.ofString "+") (Text.ofString "a")) ≠
      .ok ((readings .normal (Text.ofString "a")).flatMap
        (writeSpaced Engine.unencodable.querySet (Text.ofString "+"))) := by
  have hrender : Engine.unencodable.queryUnsafe.map
      (render · (Text.ofString "+") (Text.ofString "a")) = .error ⟨0x110000⟩ := by decide +kernel
  refine ⟨by decide +kernel, hrender, fun h => ?_⟩
  rw [hrender] at h
  cases h

end SearchTemplate.Query
