import SearchTemplate.Percent.UnsafeSet
import SearchTemplate.Text.Bytes
import SearchTemplate.Text.Digit

/-!
# Percent forms

`Percent.encode` writes the unsafe symbols of a text as `%XX` of their bytes.
`Percent.decode` reads the bytes back: `%` with two hexadecimal digits is one byte, and any
other symbol stands for its own bytes.
-/

namespace SearchTemplate.Percent

/-- A byte as `%` and two digits. -/
def byteForm (b : UInt8) : Text :=
  [.char '%', .upperHex (b.toNat / 16), .upperHex (b.toNat % 16)]

/-- A symbol as the forms of its bytes. -/
def symbolForm (s : Symbol) : Text := s.bytes.flatMap byteForm

def encode (u : UnsafeSet) (t : Text) : Text :=
  t.flatMap fun s => if u.covers s then symbolForm s else [s]

/-- The byte that two hexadecimal digits at the head of a text name. -/
def hexByte? : Text → Option UInt8
  | x :: y :: _ => do
    let hi ← x.hexValue?
    let lo ← y.hexValue?
    return UInt8.ofNat (hi * 16 + lo)
  | _ => none

/-- Reads the bytes of a text whose first `skip` symbols belong to a form already read. -/
def decodeFrom : Nat → Text → List UInt8
  | _, [] => []
  | skip + 1, _ :: rest => decodeFrom skip rest
  | 0, s :: rest =>
    match if s = .char '%' then hexByte? rest else none with
    | some b => b :: decodeFrom 2 rest
    | none => s.bytes ++ decodeFrom 0 rest

def decode (t : Text) : List UInt8 := decodeFrom 0 t

end SearchTemplate.Percent
