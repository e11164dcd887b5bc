import SearchTemplate.Number.Binary64
import SearchTemplate.Text.Symbol

/-!
# Shortest decimals

`Binary64.shortest` finds the decimal with the fewest digits that reads back as a number, and of
these the one nearest to it. `Binary64.toText` lays the digits out: positional from `10 ^ -4` to
below `10 ^ 16`, with a point and an exponent of at least two digits otherwise.
-/

namespace SearchTemplate.Binary64

/-- The decimal `0.d₁d₂… * 10 ^ point`, where `digits` has the digits `d₁d₂…`. -/
structure Decimal where
  digits : Nat
  point : Int
  deriving DecidableEq, Repr

/-- The least `p` from `low` on, in at most `fuel` steps, with `num / den < 10 ^ p`. -/
def pointFrom (num den : Nat) : Nat → Int → Int
  | 0, p => p
  | fuel + 1, p =>
    let below :=
      if 0 ≤ p then num < den * .pow 10 p.toNat else num * .pow 10 (-p).toNat < den
    if below then p else pointFrom num den fuel (p + 1)

/-- The position of the decimal point of a positive quotient. -/
def pointOf (num den : Nat) : Int :=
  pointFrom num den 8 (topBit num den * 30103 / 100000 - 2)

/-- The two decimals with `n` digits around a quotient, the nearer one first. -/
def neighbours (num den : Nat) (point : Int) (n : Nat) : List Decimal :=
  let shift := (n : Int) - point
  let (a, b) :=
    if 0 ≤ shift then (num * .pow 10 shift.toNat, den) else (num, den * .pow 10 (-shift).toNat)
  let lower : Decimal := ⟨a / b, point⟩
  let upper : Decimal :=
    if a / b + 1 = .pow 10 n then ⟨.pow 10 (n - 1), point + 1⟩ else ⟨a / b + 1, point⟩
  if 2 * (a % b) < b ∨ (2 * (a % b) = b ∧ a / b % 2 = 0) then [lower, upper] else [upper, lower]

/-- The first decimal with `n` or more digits, up to `fuel` more, that reads back as `x`. -/
def shortestFrom (x : Binary64) (num den : Nat) (point : Int) : Nat → Nat → Decimal
  | 0, _ => ⟨0, 0⟩
  | fuel + 1, n =>
    match (neighbours num den point n).find? fun d =>
        ofDecimal x.isNegative d.digits (d.point - n) == x with
    | some d => d
    | none => shortestFrom x num den point fuel (n + 1)

def shortest (x : Binary64) : Decimal :=
  match x with
  | finite _ 0 _ => ⟨0, 1⟩
  | finite _ m e =>
    let (num, den) := scale m 1 e
    shortestFrom x num den (pointOf num den) 17 1
  | infinite _ => ⟨0, 0⟩
  | nan => ⟨0, 0⟩

def zeros (n : Int) : Text := List.replicate n.toNat (.char '0')

/-- The digits without zeros at their end. -/
def Decimal.digitText (d : Decimal) : Text :=
  match ((Text.ofNat d.digits).reverse.dropWhile (· == .char '0')).reverse with
  | [] => [.char '0']
  | ds => ds

/-- The exponent with its sign and at least two digits. -/
def exponentText (e : Int) : Text :=
  let magnitude := Text.ofNat e.natAbs
  (if e < 0 then .char '-' else .char '+') :: (zeros (2 - magnitude.length) ++ magnitude)

def Decimal.toText (d : Decimal) : Text :=
  let ds := d.digitText
  let p := d.point
  if p ≤ -4 ∨ 16 < p then
    ds.take 1 ++ (if ds.length = 1 then [] else .char '.' :: ds.drop 1)
      ++ .char 'e' :: exponentText (p - 1)
  else if p ≤ 0 then .ofString "0." ++ zeros (-p) ++ ds
  else if (ds.length : Int) ≤ p then ds ++ zeros (p - ds.length) ++ .ofString ".0"
  else ds.take p.toNat ++ .char '.' :: ds.drop p.toNat

/-- The text of a number, given the words for infinity and for no number. -/
def toText (infinityWord nanWord : String) (x : Binary64) : Text :=
  let sign : Text := if x.isNegative then [.char '-'] else []
  match x with
  | finite _ _ _ => sign ++ x.shortest.toText
  | infinite _ => sign ++ .ofString infinityWord
  | nan => .ofString nanWord

end SearchTemplate.Binary64
