import SearchTemplate.Config.Basic

/-!
# The unsafe sets of a configuration

Where every unsafe range ends at a code that a symbol can have (`Config.Encodable`), both unsafe
sets exist: `Config.querySet`, and `Config.urlSet` with the space in addition.
-/

namespace SearchTemplate.Config

/-- No unsafe range asks for a code that no symbol can have. -/
def Encodable (c : Config) : Prop := ∀ r ∈ c.unsafeRanges, r.hi ≤ UnsafeSet.maxCode

instance (c : Config) : Decidable c.Encodable :=
  inferInstanceAs (Decidable (∀ r ∈ c.unsafeRanges, r.hi ≤ UnsafeSet.maxCode))

def querySet (c : Config) : UnsafeSet := ⟨c.unsafeRanges⟩

def urlSet (c : Config) : UnsafeSet := ⟨⟨CodeRange.space, CodeRange.space⟩ :: c.unsafeRanges⟩

variable {c : Config}

theorem queryUnsafe_eq (hc : c.Encodable) : c.queryUnsafe = .ok c.querySet := by
  have hnone : c.unsafeRanges.find? (fun r => UnsafeSet.maxCode < r.hi) = none := by
    rw [List.find?_eq_none]
    intro r hr hlt
    have hle := hc r hr
    have hlt' := of_decide_eq_true hlt
    omega
  rw [queryUnsafe, UnsafeSet.ofRanges, hnone]
  rfl

theorem urlUnsafe_eq (hc : c.Encodable) : c.urlUnsafe = .ok c.urlSet := by
  rw [urlUnsafe, queryUnsafe_eq hc]
  rfl

theorem exists_urlUnsafe_eq_error (hc : ¬ c.Encodable) : ∃ error, c.urlUnsafe = .error error := by
  rw [urlUnsafe, queryUnsafe, UnsafeSet.ofRanges]
  split
  · exact ⟨_, rfl⟩
  · rename_i hnone
    refine absurd (fun r hr => ?_) hc
    have hle := List.find?_eq_none.mp hnone r hr
    rw [decide_eq_true_iff] at hle
    omega

theorem queryUnsafe_eq_ok_iff {u : UnsafeSet} :
    c.queryUnsafe = .ok u ↔ c.Encodable ∧ u = c.querySet := by
  by_cases hc : c.Encodable
  · simp [queryUnsafe_eq hc, hc, eq_comm]
  · refine ⟨fun h => ?_, fun h => absurd h.1 hc⟩
    obtain ⟨error, herror⟩ := exists_urlUnsafe_eq_error hc
    rw [urlUnsafe, h] at herror
    cases herror

theorem not_encodable_of_urlUnsafe {error : CodeOutOfRange} (h : c.urlUnsafe = .error error) :
    ¬ c.Encodable := by
  intro hc
  rw [urlUnsafe_eq hc] at h
  cases h

theorem lists_urlSet (c : Config) (s : Symbol) :
    c.urlSet.lists s =
      ((CodeRange.mk CodeRange.space CodeRange.space).contains s.code || c.querySet.lists s) := rfl

/-- A URL may hold what a query may, but for the space. -/
theorem covers_urlSet (c : Config) (s : Symbol) :
    c.urlSet.covers s = (decide (s = .char ' ') || c.querySet.covers s) := by
  have hspace : (CodeRange.mk CodeRange.space CodeRange.space).contains s.code
      = decide (s = .char ' ') := by
    rw [Bool.eq_iff_iff, CodeRange.contains_iff, decide_eq_true_iff]
    refine ⟨fun h => Symbol.code_injective (Nat.le_antisymm h.2 h.1), ?_⟩
    rintro rfl
    decide
  rw [UnsafeSet.covers, lists_urlSet, hspace, Bool.or_assoc, UnsafeSet.covers]

theorem standard_encodable : standard.Encodable := by decide

end SearchTemplate.Config
