/-!
# Binary64 numbers

Floating-point numbers with a sign, 53 bits of mantissa and an exponent from -1074, held as
exact integers. `Binary64.ofRatio` rounds a quotient to the nearest one, a half to the even
neighbour; reading a decimal, sums and products are exact results rounded by it.
-/

namespace SearchTemplate

/-- `finite s m e` is `m * 2 ^ e` with the sign `s`, where `m < 2 ^ 53`, and `2 ^ 52 ≤ m` unless
`e` is the least exponent. -/
inductive Binary64 where
  | finite (negative : Bool) (mantissa : Nat) (exponent : Int)
  | infinite (negative : Bool)
  | nan
  deriving DecidableEq, Repr

namespace Binary64

def minExponent : Int := -1074

def maxExponent : Int := 971

/-- The quotient rounded to the nearest integer, a half to the even one. -/
def roundDiv (num den : Nat) : Nat :=
  let q := num / den
  let r := num % den
  if 2 * r < den ∨ (2 * r = den ∧ q % 2 = 0) then q else q + 1

/-- `a * 2 ^ e` as a quotient. -/
def scale (num den : Nat) (e : Int) : Nat × Nat :=
  if 0 ≤ e then (num * .pow 2 e.toNat, den) else (num, den * .pow 2 (-e).toNat)

/-- The exponent of the highest bit of a positive quotient. -/
def topBit (num den : Nat) : Int :=
  let guess : Int := (num.log2 : Int) - den.log2
  let (n, d) := scale num den (-guess)
  if d ≤ n then guess else guess - 1

/-- The number nearest to `num / den`. -/
def ofRatio (negative : Bool) (num den : Nat) : Binary64 :=
  if num = 0 then finite negative 0 minExponent
  else
    let e := max minExponent (topBit num den - 52)
    let (n, d) := scale num den (-e)
    let m := roundDiv n d
    let (m, e) := if m = .pow 2 53 then (.pow 2 52, e + 1) else (m, e)
    if maxExponent < e then infinite negative else finite negative m e

/-- The number nearest to `digits * 10 ^ power`. Powers far outside of the range give infinity or
zero at once. -/
def ofDecimal (negative : Bool) (digits : Nat) (power : Int) : Binary64 :=
  if digits = 0 then finite negative 0 minExponent
  else if 400 < power then infinite negative
  else if 0 ≤ power then ofRatio negative (digits * .pow 10 power.toNat) 1
  else if power + (digits.log2 : Int) < -400 then finite negative 0 minExponent
  else ofRatio negative digits (.pow 10 (-power).toNat)

def ofNat (n : Nat) : Binary64 := ofRatio false n 1

def isNegative : Binary64 → Bool
  | finite s _ _ => s
  | infinite s => s
  | nan => false

def neg : Binary64 → Binary64
  | finite s m e => finite (!s) m e
  | infinite s => infinite (!s)
  | nan => nan

def mul : Binary64 → Binary64 → Binary64
  | finite s m e, finite t n f =>
    let (num, den) := scale (m * n) 1 (e + f)
    ofRatio (s != t) num den
  | nan, _ => nan
  | _, nan => nan
  | infinite s, finite t n _ => if n = 0 then nan else infinite (s != t)
  | finite s m _, infinite t => if m = 0 then nan else infinite (s != t)
  | infinite s, infinite t => infinite (s != t)

/-- The mantissa with its sign, in units of `2 ^ e`. -/
def signedUnits (negative : Bool) (m : Nat) (shift : Int) : Int :=
  let units : Int := m * .pow 2 shift.toNat
  if negative then -units else units

def add : Binary64 → Binary64 → Binary64
  | finite s m e, finite t n f =>
    let unit := min e f
    let sum := signedUnits s m (e - unit) + signedUnits t n (f - unit)
    let negative := if sum = 0 then s && t else decide (sum < 0)
    let (num, den) := scale sum.natAbs 1 unit
    ofRatio negative num den
  | nan, _ => nan
  | _, nan => nan
  | infinite s, infinite t => if s = t then infinite s else nan
  | infinite s, finite _ _ _ => infinite s
  | finite _ _ _, infinite t => infinite t

/-- The value of a number that is an integer. -/
def toInt? : Binary64 → Option Int
  | finite s m e =>
    let (num, den) := scale m 1 e
    if num % den = 0 then
      let n : Int := (num / den : Nat)
      some (if s then -n else n)
    else none
  | infinite _ => none
  | nan => none

end Binary64

end SearchTemplate
