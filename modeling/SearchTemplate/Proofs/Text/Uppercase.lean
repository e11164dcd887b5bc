import Mathlib.Data.List.Basic
import SearchTemplate.Text.Blank
import SearchTemplate.Text.Uppercase

/-!
# What upper case can give

Upper case gives letters of ASCII, symbols outside of ASCII, or the symbol itself
(`Symbol.eq_or_code_of_mem_uppercase`): it makes no mark of the wire format out of other symbols.
A row of the tables is checked once for all the codes that it covers.

Upper case is final (`Text.uppercase_uppercase`), and it neither makes nor loses blanks
(`Symbol.isBlank_of_mem_uppercase`). This is read off the tables as a whole: no code in them is both
a code with another upper case and an upper case, or a blank.
-/

namespace SearchTemplate

/-- A character that is an ASCII letter in upper case or outside of ASCII. -/
def UpperCode (n : Nat) : Prop := n.isValidChar ∧ (0x41 ≤ n ∧ n ≤ 0x5A ∨ 0x80 ≤ n)

instance (n : Nat) : Decidable (UpperCode n) :=
  inferInstanceAs (Decidable (n.isValidChar ∧ (0x41 ≤ n ∧ n ≤ 0x5A ∨ 0x80 ≤ n)))

theorem UpperCode.toNat_ofNat {n : Nat} (h : UpperCode n) : (Char.ofNat n).toNat = n := by
  rw [Char.ofNat, dif_pos h.1]
  rfl

/-- All upper-case codes of the row lie in one of the ranges of codes that upper case may give. -/
def CaseRow.Lands (row : CaseRow) : Prop :=
  ∃ r ∈ [((0x41 : Int), (0x5A : Int)), (0x80, 0xD7FF), (0xE000, 0x10FFFF)],
    r.1 ≤ row.first + row.shift ∧ row.last + row.shift ≤ r.2

instance (row : CaseRow) : Decidable row.Lands :=
  inferInstanceAs (Decidable (∃ _ ∈ _, _))

theorem CaseRow.upperCode {row : CaseRow} (hrow : row.Lands) {n : Nat} (hn : row.covers n = true) :
    UpperCode (n + row.shift).toNat := by
  have hrange : row.first ≤ n ∧ n ≤ row.last := by
    unfold covers at hn
    simp only [Bool.and_eq_true, Nat.ble_eq] at hn
    exact hn.1
  obtain ⟨r, hr, hlo, hhi⟩ := hrow
  simp only [List.mem_cons, List.not_mem_nil, or_false] at hr
  unfold UpperCode Nat.isValidChar
  rcases hr with rfl | rfl | rfl <;> omega

theorem lands_of_mem : ∀ row ∈ simpleUppercase, row.Lands := by decide +kernel

theorem upperCode_of_mem : ∀ entry ∈ expandingUppercase, ∀ n ∈ entry.2, UpperCode n := by
  decide +kernel

theorem eq_or_upperCode {n m : Nat} (h : m ∈ uppercaseCodes n) : m = n ∨ UpperCode m := by
  unfold uppercaseCodes at h
  split at h
  · rename_i row hrow
    right
    rw [List.mem_singleton] at h
    rw [h]
    have hcovers : row.covers n = true :=
      List.find?_some (p := fun row : CaseRow => row.covers n) hrow
    exact CaseRow.upperCode (lands_of_mem row (List.mem_of_find?_eq_some hrow)) hcovers
  · split at h
    · rename_i entry hentry
      right
      exact upperCode_of_mem entry (List.mem_of_find?_eq_some hentry) m h
    · left
      exact List.mem_singleton.mp h

/-- Upper case adds no symbol of ASCII but letters. -/
theorem Symbol.eq_or_code_of_mem_uppercase {s x : Symbol} (h : x ∈ s.uppercase) :
    x = s ∨ (0x41 ≤ x.code ∧ x.code ≤ 0x5A) ∨ 0x80 ≤ x.code := by
  cases s with
  | stray b => exact .inl (List.mem_singleton.mp h)
  | char c =>
    obtain ⟨n, hn, rfl⟩ := List.mem_map.mp h
    rcases eq_or_upperCode hn with rfl | hupper
    · left
      rw [Char.ofNat_toNat]
    · right
      simp only [code, hupper.toNat_ofNat]
      exact hupper.2

/-! ## The codes in the tables -/

/-- A set of codes as the bits of a number, which makes it cheap to compare with others. -/
def bits : List Nat → Nat
  | [] => 0
  | n :: ns => bits ns ||| 1 <<< n

theorem testBit_bits {ns : List Nat} {n : Nat} : (bits ns).testBit n = true ↔ n ∈ ns := by
  induction ns with
  | nil => simp [bits]
  | cons m ns ih =>
    rw [bits, Nat.testBit_or, Bool.or_eq_true, ih, Nat.one_shiftLeft, Nat.testBit_two_pow,
      decide_eq_true_iff, List.mem_cons, or_comm, eq_comm]

theorem not_mem_of_bits {ns ms : List Nat} (h : bits ns &&& bits ms = 0) {n : Nat} (hn : n ∈ ns) :
    n ∉ ms := by
  intro hm
  have hboth : (bits ns &&& bits ms).testBit n = true := by
    rw [Nat.testBit_and, testBit_bits.mpr hn, testBit_bits.mpr hm]
    rfl
  rw [h, Nat.zero_testBit] at hboth
  cases hboth

def CaseRow.codes (row : CaseRow) : List Nat :=
  List.range' row.first ((row.last - row.first) / row.step + 1) row.step

def CaseRow.upperCodes (row : CaseRow) : List Nat :=
  row.codes.map fun (n : Nat) => (n + row.shift).toNat

theorem CaseRow.mem_codes {row : CaseRow} {n : Nat} (h : row.covers n = true) : n ∈ row.codes := by
  unfold covers at h
  simp only [Bool.and_eq_true, Nat.ble_eq, beq_iff_eq] at h
  obtain ⟨⟨hfirst, hlast⟩, hstep⟩ := h
  refine List.mem_range'.mpr ⟨(n - row.first) / row.step, ?_, ?_⟩
  · exact Nat.lt_succ_of_le (Nat.div_le_div_right (by omega))
  · have hdiv := Nat.div_add_mod (n - row.first) row.step
    omega

/-- The codes whose upper case is another one. -/
def lowerCodes : List Nat :=
  simpleUppercase.flatMap CaseRow.codes ++ expandingUppercase.map Prod.fst

/-- What the upper case of these is made of. -/
def upperCodes : List Nat :=
  simpleUppercase.flatMap CaseRow.upperCodes ++ expandingUppercase.flatMap Prod.snd

theorem uppercaseCodes_of_not_mem {n : Nat} (h : n ∉ lowerCodes) : uppercaseCodes n = [n] := by
  rw [lowerCodes, List.mem_append, not_or] at h
  have hsimple : simpleUppercase.find? (·.covers n) = none := by
    rw [List.find?_eq_none]
    exact fun row hrow hcovers => h.1 (List.mem_flatMap.mpr ⟨row, hrow, row.mem_codes hcovers⟩)
  have hexpanding : expandingUppercase.find? (·.1 == n) = none := by
    rw [List.find?_eq_none]
    exact fun entry hentry hn => h.2 (List.mem_map.mpr ⟨entry, hentry, eq_of_beq hn⟩)
  rw [uppercaseCodes, hsimple, hexpanding]

theorem eq_or_mem_upperCodes (n : Nat) :
    uppercaseCodes n = [n] ∨ ∀ m ∈ uppercaseCodes n, m ∈ upperCodes := by
  unfold uppercaseCodes
  split
  · rename_i row hrow
    have hcovers : row.covers n = true :=
      List.find?_some (p := fun row : CaseRow => row.covers n) hrow
    right
    rw [List.forall_mem_singleton]
    exact List.mem_append_left _ (List.mem_flatMap.mpr
      ⟨row, List.mem_of_find?_eq_some hrow, List.mem_map_of_mem (row.mem_codes hcovers)⟩)
  · split
    · rename_i entry hentry
      right
      exact fun m hm => List.mem_append_right _ (List.mem_flatMap.mpr
        ⟨entry, List.mem_of_find?_eq_some hentry, hm⟩)
    · exact .inl rfl

theorem uppercaseCodes_ne_nil (n : Nat) : uppercaseCodes n ≠ [] := by
  have hentries : ∀ entry ∈ expandingUppercase, entry.2 ≠ [] := by decide +kernel
  unfold uppercaseCodes
  split
  · exact List.cons_ne_nil _ _
  · split
    · rename_i entry hentry
      exact hentries entry (List.mem_of_find?_eq_some hentry)
    · exact List.cons_ne_nil _ _

def codesOfBlanks : List Nat :=
  blankCodes.flatMap fun r => List.range' r.lo (r.hi + 1 - r.lo)

theorem upperCodes_disjoint_lowerCodes : bits upperCodes &&& bits lowerCodes = 0 := by
  decide +kernel

theorem codesOfBlanks_disjoint : bits codesOfBlanks &&& bits (lowerCodes ++ upperCodes) = 0 := by
  decide +kernel

/-! ## Symbols -/

namespace Symbol

variable {s x : Symbol}

theorem uppercase_of_code_not_mem (h : s.code ∉ lowerCodes) : s.uppercase = [s] := by
  cases s with
  | stray b => rfl
  | char c =>
    rw [uppercase, show uppercaseCodes c.toNat = [c.toNat] from uppercaseCodes_of_not_mem h,
      List.map_singleton, Char.ofNat_toNat]

theorem uppercase_eq_or_code_mem (s : Symbol) :
    s.uppercase = [s] ∨ ∀ x ∈ s.uppercase, x.code ∈ upperCodes := by
  cases s with
  | stray b => exact .inl rfl
  | char c =>
    rw [uppercase]
    rcases eq_or_mem_upperCodes c.toNat with hself | hupper
    · left
      rw [hself, List.map_singleton, Char.ofNat_toNat]
    · right
      intro x hx
      obtain ⟨n, hn, rfl⟩ := List.mem_map.mp hx
      have hvalid : (Char.ofNat n).toNat = n := by
        rcases eq_or_upperCode hn with rfl | hupper
        · rw [Char.ofNat_toNat]
        · exact hupper.toNat_ofNat
      rw [code, hvalid]
      exact hupper n hn

/-- Upper case is its own upper case. -/
theorem uppercase_of_mem_uppercase (h : x ∈ s.uppercase) : x.uppercase = [x] := by
  rcases uppercase_eq_or_code_mem s with hself | hupper
  · rw [hself, List.mem_singleton] at h
    rw [h, hself]
  · exact uppercase_of_code_not_mem (not_mem_of_bits upperCodes_disjoint_lowerCodes (hupper x h))

theorem code_mem_of_isBlank (h : s.isBlank = true) : s.code ∈ codesOfBlanks := by
  cases s with
  | stray b => cases h
  | char c =>
    obtain ⟨r, hr, hcontains⟩ := List.any_eq_true.mp h
    have hrange := CodeRange.contains_iff.mp hcontains
    refine List.mem_flatMap.mpr ⟨r, hr, List.mem_range'.mpr ⟨c.toNat - r.lo, ?_, ?_⟩⟩
    · omega
    · rw [code]
      omega

theorem uppercase_of_isBlank (h : s.isBlank = true) : s.uppercase = [s] := by
  have hcode := not_mem_of_bits codesOfBlanks_disjoint (code_mem_of_isBlank h)
  exact uppercase_of_code_not_mem fun hlower => hcode (List.mem_append_left _ hlower)

theorem isBlank_of_mem_uppercase (h : x ∈ s.uppercase) : x.isBlank = s.isBlank := by
  rcases uppercase_eq_or_code_mem s with hself | hupper
  · rw [hself, List.mem_singleton] at h
    rw [h]
  · have hx : ¬ x.isBlank = true := fun hblank =>
      not_mem_of_bits codesOfBlanks_disjoint (code_mem_of_isBlank hblank)
        (List.mem_append_right _ (hupper x h))
    have hs : ¬ s.isBlank = true := fun hblank => by
      rw [uppercase_of_isBlank hblank, List.mem_singleton] at h
      exact hx (h ▸ hblank)
    rw [Bool.eq_false_iff.mpr hx, Bool.eq_false_iff.mpr hs]

theorem uppercase_ne_nil (s : Symbol) : s.uppercase ≠ [] := by
  cases s with
  | stray b => exact List.cons_ne_nil _ _
  | char c => exact List.map_eq_nil_iff.not.mpr (uppercaseCodes_ne_nil c.toNat)

end Symbol

/-! ## Texts -/

namespace Text

theorem uppercase_append (t u : Text) : (t ++ u).uppercase = t.uppercase ++ u.uppercase :=
  List.flatMap_append

/-- **Upper case is final.** -/
theorem uppercase_uppercase (t : Text) : t.uppercase.uppercase = t.uppercase := by
  rw [uppercase, uppercase, List.flatMap_assoc]
  refine List.flatMap_congr fun s _ => ?_
  have hself : ∀ x ∈ s.uppercase, x.uppercase = [x] := fun x hx =>
    Symbol.uppercase_of_mem_uppercase hx
  rw [List.flatMap_congr hself, List.flatMap_singleton']

end Text

end SearchTemplate
