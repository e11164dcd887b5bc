import SearchTemplate.Percent.Reading
import SearchTemplate.Proofs.Percent.Decode
import SearchTemplate.Proofs.Percent.Plain
import SearchTemplate.Proofs.Text.Join

/-!
# Escaping as one reading

A text is empty, or starts with an escape mark, or with a symbol that no mark starts at: these are
the steps of the reading (`Percent.readings_induction`). Escaping writes each symbol as it is read
(`Percent.escape_eq_readings`), so that the empty chunks at the end of a text do not matter.

A backslash that is read as a symbol has none behind it, and no percent form holds one. Hence no
escaped text holds an escape mark (`Percent.not_infix_escape`).
-/

namespace SearchTemplate.Percent

variable {u : UnsafeSet} {mode : Mode} {s : Symbol} {t rest : Text} {r : Mode × Symbol}

/-! ## The steps of the reading -/

theorem escapeMark_isPrefix_iff :
    escapeMark <+: s :: rest ↔ s = .char '\\' ∧ [.char '\\'] <+: rest := by
  rw [escapeMark, List.cons_prefix_cons, eq_comm]

/-- Induction over the reading of a text. -/
theorem readings_induction {P : Mode → Text → List (Mode × Symbol) → Prop}
    (nil : ∀ mode, P mode [] [])
    (mark : ∀ mode rest, P .kept rest (readings .kept rest) →
      P mode (escapeMark ++ rest) (readings .kept rest))
    (symbol : ∀ mode s rest, ¬ escapeMark <+: s :: rest → P .normal rest (readings .normal rest) →
      P mode (s :: rest) ((mode, s) :: readings .normal rest)) :
    ∀ mode t, P mode t (readings mode t) := by
  intro mode t
  fun_induction readings mode t with
  | case1 mode => exact nil mode
  | case2 mode s => exact symbol mode s [] (by simp [escapeMark_isPrefix_iff]) (nil .normal)
  | case3 mode s t rest h ih =>
    obtain ⟨rfl, rfl⟩ := h
    exact mark mode rest ih
  | case4 mode s t rest h ih =>
    refine symbol mode s (t :: rest) ?_ ih
    simpa [escapeMark_isPrefix_iff, eq_comm] using h

/-! ## Chunks -/

/-- Escapes the chunks of a text of which the first one is read in a mode. -/
def escapeFrom (u : UnsafeSet) : Mode → List Text → Text
  | .normal, chunks => escapeChunks u chunks
  | .kept, chunks => chunks.flatMap (keepFirst u)

/-- An empty chunk only makes the next symbol a kept one. -/
theorem escapeFrom_nil_cons (u : UnsafeSet) (mode : Mode) (chunks : List Text) :
    escapeFrom u mode ([] :: chunks) = escapeFrom u .kept chunks := by
  cases mode <;> rfl

theorem escapeFrom_cons_cons (u : UnsafeSet) (mode : Mode) (s : Symbol) (w : Text)
    (chunks : List Text) :
    escapeFrom u mode ((s :: w) :: chunks)
      = writeReading u (mode, s) ++ escapeFrom u .normal (w :: chunks) := by
  cases mode with
  | normal => simp [escapeFrom, escapeChunks, encode_cons, writeReading]
  | kept => simp [escapeFrom, escapeChunks, keepFirst, writeReading]

theorem escapeFrom_splitOn (u : UnsafeSet) (mode : Mode) (t : Text) :
    escapeFrom u mode (t.splitOn escapeMark) = (readings mode t).flatMap (writeReading u) := by
  induction mode, t using readings_induction with
  | nil mode => exact escapeFrom_nil_cons u mode []
  | mark mode rest ih => rw [Text.splitOn_append escapeMark_ne_nil, escapeFrom_nil_cons, ih]
  | symbol mode s rest hmark ih =>
    obtain ⟨w, chunks, hsplit⟩ := List.exists_cons_of_ne_nil (Text.splitOn_ne_nil rest escapeMark)
    rw [Text.splitOn_cons escapeMark_ne_nil hmark, hsplit, List.modifyHead_cons,
      escapeFrom_cons_cons, ← hsplit, ih, List.flatMap_cons]

theorem escapeChunks_append_replicate (u : UnsafeSet) (chunks : List Text) (k : Nat) :
    escapeChunks u (chunks ++ List.replicate k []) = escapeChunks u chunks := by
  have hempty : (List.replicate k ([] : Text)).flatMap (keepFirst u) = [] := by
    rw [List.flatMap_eq_nil_iff]
    intro w hw
    rw [List.eq_of_mem_replicate hw]
    rfl
  cases chunks with
  | nil =>
    cases k with
    | zero => rfl
    | succ k => simp [List.replicate_succ, escapeChunks, encode, keepFirst]
  | cons w chunks => simp [escapeChunks, hempty]

theorem escapeChunks_dropTrailingEmpty (u : UnsafeSet) (chunks : List Text) :
    escapeChunks u (Text.dropTrailingEmpty chunks) = escapeChunks u chunks := by
  obtain ⟨k, hk⟩ := Text.exists_dropTrailingEmpty_append chunks
  conv_rhs => rw [hk, escapeChunks_append_replicate]

theorem escape_eq_chunks (u : UnsafeSet) (t : Text) :
    escape u t = escapeChunks u (t.splitOn escapeMark) := escapeChunks_dropTrailingEmpty u _

theorem escape_eq_flatMap (u : UnsafeSet) (t : Text) :
    escape u t = (readings .normal t).flatMap (writeReading u) :=
  (escape_eq_chunks u t).trans (escapeFrom_splitOn u .normal t)

/-- **Escaping is one reading.** An escaped text is the text read from left to right, each symbol
written as it is read, whatever chunks the escape marks leave. The empty chunks at the end change
nothing. -/
theorem escape_eq_readings (u : UnsafeSet) (t : Text) :
    escape u t = (readings .normal t).flatMap (writeReading u) ∧
      escape u t = escapeChunks u (t.splitOn escapeMark) :=
  ⟨escape_eq_flatMap u t, escape_eq_chunks u t⟩

/-! ## Backslashes that are left -/

theorem writeReading_ne_nil (u : UnsafeSet) (r : Mode × Symbol) : writeReading u r ≠ [] := by
  unfold writeReading
  split
  · exact symbolForm_ne_nil r.2
  · exact List.cons_ne_nil _ _

/-- A backslash is written for a backslash only, and then alone. -/
theorem writeReading_of_backslash_mem (h : .char '\\' ∈ writeReading u r) :
    r.2 = .char '\\' ∧ writeReading u r = [.char '\\'] := by
  unfold writeReading at h ⊢
  split at h
  · exact absurd (isPlain_of_mem_symbolForm h) (by decide)
  · rename_i hkeep
    rw [if_neg hkeep, ← List.mem_singleton.mp h]
    exact ⟨rfl, rfl⟩

/-- What is written starts with a backslash only where the text does. -/
theorem backslash_isPrefix_of_written
    (h : [.char '\\'] <+: (readings mode t).flatMap (writeReading u)) : [.char '\\'] <+: t := by
  induction mode, t using readings_induction with
  | nil mode => exact h
  | mark mode rest _ => exact ⟨_, rfl⟩
  | symbol mode s rest _ _ =>
    obtain ⟨x, w, hw⟩ := List.exists_cons_of_ne_nil (writeReading_ne_nil u (mode, s))
    rw [List.flatMap_cons, hw, List.cons_append, List.cons_prefix_cons] at h
    obtain ⟨rfl, -⟩ := h
    obtain ⟨rfl, -⟩ := writeReading_of_backslash_mem (hw ▸ List.mem_cons_self)
    exact ⟨rest, rfl⟩

theorem not_infix_written (u : UnsafeSet) (mode : Mode) (t : Text) :
    ¬ escapeMark <:+: (readings mode t).flatMap (writeReading u) := by
  induction mode, t using readings_induction with
  | nil mode => simp [escapeMark]
  | mark mode rest ih => exact ih
  | symbol mode s rest hmark ih =>
    intro h
    rw [List.flatMap_cons] at h
    by_cases hs : .char '\\' ∈ writeReading u (mode, s)
    · -- the mark would have to start at `s`, where the text has none
      obtain ⟨rfl, hw⟩ := writeReading_of_backslash_mem hs
      rw [hw, List.singleton_append, List.infix_cons_iff] at h
      rcases h with hp | hi
      · have hnext := backslash_isPrefix_of_written (escapeMark_isPrefix_iff.mp hp).2
        exact hmark (escapeMark_isPrefix_iff.mpr ⟨rfl, hnext⟩)
      · exact ih hi
    · exact ih (Text.infix_of_infix_append hs h)

/-- **No escape mark is left.** Whatever symbols are unsafe, no two backslashes stand side by side
in an escaped text. -/
theorem not_infix_escape (u : UnsafeSet) (t : Text) : ¬ escapeMark <:+: escape u t := by
  rw [escape_eq_flatMap]
  exact not_infix_written u .normal t

/-- A backslash is left where it is kept, and where it is safe. -/
example : escape ⟨[]⟩ (.ofString "\\\\\\a\\b\\\\\\\\") = .ofString "\\a\\b" := by decide

end SearchTemplate.Percent
