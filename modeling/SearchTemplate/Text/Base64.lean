import SearchTemplate.Text.Symbol

/-!
# Base64

Four digits write three bytes. Symbols that are no digits are skipped, and padding counts only
where it can end the text.
-/

namespace SearchTemplate.Base64

def digit? : Symbol → Option Nat
  | .char c =>
    if 'A' ≤ c ∧ c ≤ 'Z' then some (c.toNat - 'A'.toNat)
    else if 'a' ≤ c ∧ c ≤ 'z' then some (c.toNat - 'a'.toNat + 26)
    else if '0' ≤ c ∧ c ≤ '9' then some (c.toNat - '0'.toNat + 52)
    else if c = '+' then some 62
    else if c = '/' then some 63
    else none
  | .stray _ _ => none

/-- Reads on after `place` digits of a group, the last of which left the bits `left`, and after
`pads` symbols of padding. -/
def decodeFrom (place left pads : Nat) : Text → Option (List UInt8)
  | [] => if place = 0 then some [] else none
  | s :: rest =>
    if s = .char '=' then
      if place < 2 then decodeFrom place left pads rest
      else if 4 ≤ place + pads + 1 then some []
      else decodeFrom place left (pads + 1) rest
    else
      match digit? s with
      | none => decodeFrom place left pads rest
      | some n =>
        let byte (b : Nat) (bytes : Option (List UInt8)) : Option (List UInt8) :=
          bytes.map (UInt8.ofNat b :: ·)
        match place with
        | 0 => decodeFrom 1 n 0 rest
        | 1 => byte (left * 4 + n / 16) (decodeFrom 2 (n % 16) 0 rest)
        | 2 => byte (left * 16 + n / 4) (decodeFrom 3 (n % 4) 0 rest)
        | _ => byte (left * 64 + n) (decodeFrom 0 0 0 rest)

def decode? (t : Text) : Option (List UInt8) := decodeFrom 0 0 0 t

end SearchTemplate.Base64
