import SearchTemplate.Text.Symbol

/-!
# Texts as bytes

`Text.bytes` writes scalar values in UTF-8 and stray bytes as they are. `Text.ofBytes` reads
bytes: each well-formed UTF-8 sequence is a scalar value, and each byte outside of one is a
stray byte. `Text.ofUtf8?` reads only bytes that are UTF-8 throughout.
-/

namespace SearchTemplate

def Symbol.bytes : Symbol → List UInt8
  | .char c => String.utf8EncodeChar c
  | .stray b _ => [b]

namespace Text

def bytes (t : Text) : List UInt8 := t.flatMap Symbol.bytes

def isContinuation (b : UInt8) : Bool := 0x80 ≤ b && b ≤ 0xBF

/-- The scalar value of a sequence that goes on with `n` continuation bytes after a first byte
with the value bits `lead`; `least` is the least code that needs this length. -/
def sequence? (n lead least : Nat) (rest : List UInt8) : Option (Char × Nat) :=
  let tail := rest.take n
  let code := tail.foldl (fun value b => value * 64 + (b.toNat - 0x80)) lead
  if tail.length = n ∧ tail.all isContinuation ∧ least ≤ code ∧ code.isValidChar then
    some (Char.ofNat code, n + 1)
  else
    none

/-- The scalar value beyond ASCII at the head of the bytes, and how many bytes it takes. -/
def scalar? : List UInt8 → Option (Char × Nat)
  | [] => none
  | a :: rest =>
    if a < 0xC0 then none
    else if a < 0xE0 then sequence? 1 (a.toNat - 0xC0) 0x80 rest
    else if a < 0xF0 then sequence? 2 (a.toNat - 0xE0) 0x800 rest
    else if a < 0xF8 then sequence? 3 (a.toNat - 0xF0) 0x10000 rest
    else none

/-- Reads bytes after the first `skip`, which belong to a scalar value already read. -/
def ofBytesFrom : Nat → List UInt8 → Text
  | _, [] => []
  | skip + 1, _ :: rest => ofBytesFrom skip rest
  | 0, b :: rest =>
    if high : 0x80 ≤ b then
      match scalar? (b :: rest) with
      | some (c, n + 1) => .char c :: ofBytesFrom n rest
      | _ => .stray b high :: ofBytesFrom 0 rest
    else .char (Char.ofNat b.toNat) :: ofBytesFrom 0 rest

def ofBytes (bs : List UInt8) : Text := ofBytesFrom 0 bs

def ofUtf8? (bs : List UInt8) : Option Text :=
  let t := ofBytes bs
  if t.any Symbol.isStray then none else some t

end Text

end SearchTemplate
