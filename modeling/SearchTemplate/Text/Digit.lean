import SearchTemplate.Text.Symbol

/-!
# Digits

ASCII digits (`Symbol.digit?`), hexadecimal digits (`Symbol.hexValue?`), and the decimal digits
of all scripts (`Symbol.decimalValue?`), each of which has its ten digits from zero to nine in a
row of codes.
-/

namespace SearchTemplate

/-- Codes of the zeros of all scripts. -/
def decimalZeros : List Nat :=
  [0x30, 0x660, 0x6F0, 0x7C0, 0x966, 0x9E6, 0xA66, 0xAE6, 0xB66, 0xBE6, 0xC66, 0xCE6, 0xD66,
    0xDE6, 0xE50, 0xED0, 0xF20, 0x1040, 0x1090, 0x17E0, 0x1810, 0x1946, 0x19D0, 0x1A80, 0x1A90,
    0x1B50, 0x1BB0, 0x1C40, 0x1C50, 0xA620, 0xA8D0, 0xA900, 0xA9D0, 0xA9F0, 0xAA50, 0xABF0,
    0xFF10, 0x104A0, 0x10D30, 0x11066, 0x110F0, 0x11136, 0x111D0, 0x112F0, 0x11450, 0x114D0,
    0x11650, 0x116C0, 0x11730, 0x118E0, 0x11950, 0x11C50, 0x11D50, 0x11DA0, 0x16A60, 0x16AC0,
    0x16B50, 0x1D7CE, 0x1D7D8, 0x1D7E2, 0x1D7EC, 0x1D7F6, 0x1E140, 0x1E2F0, 0x1E950, 0x1FBF0]

namespace Symbol

/-- The value of an ASCII digit. -/
def digit? : Symbol → Option Nat
  | char c => if c.isDigit then some (c.toNat - '0'.toNat) else none
  | stray _ _ => none

def isDigit (s : Symbol) : Bool := s.digit?.isSome

/-- The value of a decimal digit of any script. -/
def decimalValue? (s : Symbol) : Option Nat :=
  (decimalZeros.find? fun z => z ≤ s.code && s.code ≤ z + 9).map (s.code - ·)

/-- The value of a hexadecimal digit in either case. -/
def hexValue? : Symbol → Option Nat
  | char c =>
    if '0' ≤ c ∧ c ≤ '9' then some (c.toNat - '0'.toNat)
    else if 'A' ≤ c ∧ c ≤ 'F' then some (c.toNat - 'A'.toNat + 10)
    else if 'a' ≤ c ∧ c ≤ 'f' then some (c.toNat - 'a'.toNat + 10)
    else none
  | stray _ _ => none

def lowerHex (n : Nat) : Symbol := char (Nat.digitChar n)

def upperHex (n : Nat) : Symbol := char (Nat.digitChar n).toUpper

end Symbol

namespace Text

/-- The number that ASCII digits write. -/
def number (digits : Text) : Nat := digits.foldl (fun n s => n * 10 + s.digit?.getD 0) 0

/-- The number that hexadecimal digits write. -/
def hexNumber? (digits : Text) : Option Nat :=
  digits.foldlM (fun n s => s.hexValue?.map (n * 16 + ·)) 0

end Text

end SearchTemplate
