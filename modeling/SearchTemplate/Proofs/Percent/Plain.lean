import Mathlib.Data.List.Basic
import SearchTemplate.Proofs.Config.UnsafeSets
import SearchTemplate.Proofs.Text.Split
import SearchTemplate.Query.Render

/-!
# Plain symbols

Under the standard configuration what needs no percent form is plain, and so are the forms
themselves: an escaped text without an escape mark is plain (`Percent.isPlain_of_mem_escape`),
and an escaped query but for its spaces, which the delimiter replaces
(`Query.isPlain_or_mem_of_mem_render`).
-/

namespace SearchTemplate

namespace Symbol

/-- An ASCII letter or digit, or one of the marks that a URL may hold as they are. -/
def isPlain : Symbol → Bool
  | char c => c.isAlphanum || ['#', '%', '&', '-', '.', '/', ':', '=', '?', '_'].contains c
  | stray _ _ => false

theorem isPlain_upperHex : ∀ n, n < 16 → (upperHex n).isPlain = true := by decide

theorem code_lt_of_isPlain {s : Symbol} (h : s.isPlain = true) : s.code < 0x80 := by
  cases s with
  | stray b => cases h
  | char c =>
    have hkinds : ((c.isUpper || c.isLower) || c.isDigit) = true ∨
        c ∈ ['#', '%', '&', '-', '.', '/', ':', '=', '?', '_'] := by
      rw [← List.contains_iff_mem, ← Bool.or_eq_true]
      exact h
    rw [Bool.or_eq_true, Bool.or_eq_true] at hkinds
    rcases hkinds with ((hupper | hlower) | hdigit) | hmark
    · exact Nat.lt_of_le_of_lt (of_decide_eq_true hupper).2 (by decide)
    · exact Nat.lt_of_le_of_lt (of_decide_eq_true (Bool.and_eq_true_iff.mp hlower).2) (by decide)
    · exact Nat.lt_of_le_of_lt (of_decide_eq_true (Bool.and_eq_true_iff.mp hdigit).2) (by decide)
    · simp only [List.mem_cons, List.not_mem_nil, or_false] at hmark
      rcases hmark with rfl | rfl | rfl | rfl | rfl | rfl | rfl | rfl | rfl | rfl <;> decide

/-- What all plain symbols have in common is checked on ASCII. -/
theorem forall_isPlain (P : Symbol → Prop)
    (h : ∀ n, n < 0x80 → (char (.ofNat n)).isPlain = true → P (char (.ofNat n))) {s : Symbol}
    (hs : s.isPlain = true) : P s := by
  have hcode := code_lt_of_isPlain hs
  cases s with
  | stray b => cases hs
  | char c =>
    rw [← Char.ofNat_toNat c] at hs ⊢
    exact h c.toNat hcode hs

theorem isBlank_of_isPlain {s : Symbol} (h : s.isPlain = true) : s.isBlank = false :=
  forall_isPlain (·.isBlank = false) (by decide) h

end Symbol

namespace Percent

variable {u : UnsafeSet} {s : Symbol} {t : Text}

/-! ## Texts without escape marks -/

theorem escapeMark_ne_nil : escapeMark ≠ [] := List.cons_ne_nil _ _

theorem escape_eq_encode (h : ¬ escapeMark <:+: t) : escape u t = encode u t := by
  unfold escape
  rw [Text.splitOn_of_not_infix escapeMark_ne_nil h]
  cases t with
  | nil => rfl
  | cons s t =>
    show encode u (s :: t) ++ [] = encode u (s :: t)
    rw [List.append_nil]

theorem not_infix_of_not_mem (h : Symbol.char '\\' ∉ t) : ¬ escapeMark <:+: t :=
  fun hmark => h (hmark.subset List.mem_cons_self)

/-! ## The symbols of an encoded text -/

theorem isPlain_of_mem_symbolForm (h : s ∈ symbolForm x) : s.isPlain = true := by
  obtain ⟨b, -, hb⟩ := List.mem_flatMap.mp h
  have hlt := b.toNat_lt
  simp only [byteForm, List.mem_cons, List.not_mem_nil, or_false] at hb
  rcases hb with rfl | rfl | rfl
  · decide
  · exact Symbol.isPlain_upperHex _ (by omega)
  · exact Symbol.isPlain_upperHex _ (by omega)

theorem isPlain_or_of_mem_encode (h : s ∈ encode u t) : s.isPlain = true ∨ u.covers s = false := by
  obtain ⟨x, -, hx⟩ := List.mem_flatMap.mp h
  split at hx
  · exact .inl (isPlain_of_mem_symbolForm hx)
  · rename_i hcovers
    right
    rw [List.mem_singleton.mp hx]
    exact Bool.eq_false_iff.mpr hcovers

theorem encode_eq_self (h : ∀ s ∈ t, u.covers s = false) : encode u t = t := by
  have hsingle : ∀ s ∈ t, (if u.covers s then symbolForm s else [s]) = [s] := by
    intro s hs
    rw [h s hs]
    rfl
  rw [encode, List.flatMap_congr hsingle, List.flatMap_singleton']

end Percent

/-! ## The standard configuration -/

namespace Config

theorem isPlain_of_not_covers {s : Symbol} (h : standard.urlSet.covers s = false) :
    s.isPlain = true := by
  have hcodes : ∀ n, n < 0x100 → standard.urlSet.covers (.char (.ofNat n)) = false →
      (Symbol.char (.ofNat n)).isPlain = true := by decide +kernel
  have hlatin : s.code ≤ UnsafeSet.maxLatin1 :=
    Nat.le_of_not_lt (of_decide_eq_false (Bool.or_eq_false_iff.mp h).2)
  unfold UnsafeSet.maxLatin1 at hlatin
  cases s with
  | char c =>
    rw [← Char.ofNat_toNat c] at h ⊢
    simp only [Symbol.code] at hlatin
    exact hcodes c.toNat (by omega) h
  | stray b =>
    simp only [Symbol.code] at hlatin
    omega

theorem not_covers_of_isPlain {s : Symbol} (h : s.isPlain = true) :
    standard.urlSet.covers s = false :=
  Symbol.forall_isPlain (standard.urlSet.covers · = false) (by decide) h

/-- A query may keep a space besides what a URL may keep. -/
theorem isPlain_or_isBlank_of_not_covers {s : Symbol} (h : standard.querySet.covers s = false) :
    s.isPlain = true ∨ s.isBlank = true := by
  by_cases hspace : s = .char ' '
  · right
    rw [hspace]
    decide
  · left
    refine isPlain_of_not_covers ?_
    rw [covers_urlSet, h, decide_eq_false hspace]
    rfl

end Config

theorem Percent.isPlain_of_mem_escape {t : Text} {s : Symbol} (ht : ¬ escapeMark <:+: t)
    (h : s ∈ escape Config.standard.urlSet t) : s.isPlain = true := by
  rw [escape_eq_encode ht] at h
  rcases isPlain_or_of_mem_encode h with h | h
  · exact h
  · exact Config.isPlain_of_not_covers h

/-- A text of plain symbols is escaped already. -/
theorem Percent.escape_of_plain {t : Text} (h : ∀ s ∈ t, s.isPlain = true) :
    escape Config.standard.urlSet t = t := by
  have hmark : Symbol.char '\\' ∉ t := fun hmem => absurd (h _ hmem) (by decide)
  rw [escape_eq_encode (not_infix_of_not_mem hmark)]
  exact encode_eq_self fun s hs => Config.not_covers_of_isPlain (h s hs)

theorem Query.isPlain_or_mem_of_mem_render {delimiter q : Text} {s : Symbol}
    (hq : Symbol.char '\\' ∉ q) (h : s ∈ render Config.standard.querySet delimiter q) :
    s.isPlain = true ∨ s ∈ delimiter := by
  obtain ⟨x, hx, hs⟩ := List.mem_flatMap.mp h
  rw [Percent.escape_eq_encode (Percent.not_infix_of_not_mem hq)] at hx
  split at hs
  · exact .inr hs
  · rename_i hblank
    rw [List.mem_singleton.mp hs]
    rcases Percent.isPlain_or_of_mem_encode hx with h | h
    · exact .inl h
    · exact .inl ((Config.isPlain_or_isBlank_of_not_covers h).resolve_right hblank)

end SearchTemplate
