/-!
# Symbols and texts

A text is a list of symbols. A symbol is a Unicode scalar value or a stray byte: one that is
not part of well-formed UTF-8, as command line arguments and file names may hold. No ASCII byte
is stray. `Symbol.code` numbers both kinds without overlap: a stray byte `b` has the code
`0xDC00 + b`, which no scalar value has.
-/

namespace SearchTemplate

inductive Symbol where
  | char (c : Char)
  | stray (b : UInt8) (high : 0x80 ≤ b := by decide)
  deriving DecidableEq, Repr, Inhabited

abbrev Text := List Symbol

namespace Symbol

/-- The number by which symbols are ordered and looked up in sets. -/
def code : Symbol → Nat
  | char c => c.toNat
  | stray b _ => 0xDC00 + b.toNat

def toChar? : Symbol → Option Char
  | char c => some c
  | stray _ _ => none

def isStray : Symbol → Bool
  | char _ => false
  | stray _ _ => true

/-- The stray byte that has a code. -/
def ofStrayCode? (code : Nat) : Option Symbol :=
  if h : 0xDC80 ≤ code ∧ code ≤ 0xDCFF then
    have hlt : code - 0xDC00 < UInt8.size := by
      change code - 0xDC00 < 256
      omega
    have high : 0x80 ≤ UInt8.ofNatLT (code - 0xDC00) hlt := by
      rw [UInt8.le_iff_toNat_le, UInt8.toNat_ofNatLT]
      exact Nat.le_sub_of_add_le h.1
    some (.stray (UInt8.ofNatLT (code - 0xDC00) hlt) high)
  else none

theorem code_injective {x y : Symbol} (h : x.code = y.code) : x = y := by
  cases x with
  | char c =>
    cases y with
    | char d => exact congrArg char (Char.ext (UInt32.toNat_inj.mp h))
    | stray b =>
      have hb := b.toNat_lt
      have hc := c.valid
      simp only [code] at h
      simp only [UInt32.isValidChar, Nat.isValidChar] at hc
      simp only [Char.toNat] at h
      omega
  | stray a =>
    cases y with
    | char d =>
      have ha := a.toNat_lt
      have hd := d.valid
      simp only [code] at h
      simp only [UInt32.isValidChar, Nat.isValidChar] at hd
      simp only [Char.toNat] at h
      omega
    | stray b =>
      simp only [code] at h
      obtain rfl : a = b := UInt8.toNat_inj.mp (by omega)
      rfl

end Symbol

namespace Text

def ofString (s : String) : Text := s.toList.map .char

theorem ofString_inj {s t : String} : ofString s = ofString t ↔ s = t := by
  refine ⟨fun h => String.toList_inj.mp ?_, congrArg _⟩
  exact (List.map_inj_right fun _ _ => Symbol.char.inj).mp h

/-- The text as a string, unless it holds a stray byte. -/
def toString? (t : Text) : Option String :=
  (t.mapM Symbol.toChar?).map String.ofList

/-- Decimal digits of a natural number. -/
def ofNat (n : Nat) : Text := (Nat.toDigits 10 n).map .char

def ofInt : Int → Text
  | .ofNat n => ofNat n
  | .negSucc n => .char '-' :: ofNat (n + 1)

/-- Texts are ordered by the codes of their symbols. -/
def le : Text → Text → Bool
  | [], _ => true
  | _ :: _, [] => false
  | x :: s, y :: t => x.code < y.code || (x == y && le s t)

/-- The texts with `d` between neighbours. -/
def join (d : Text) : List Text → Text
  | [] => []
  | [t] => t
  | t :: ts => t ++ d ++ join d ts

end Text

end SearchTemplate
