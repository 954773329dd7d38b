import SearchRelay.Binary64

/-!
# SearchRelay.Binary64.Decimal

Binary64 numbers and decimal digits.

1. *Writing.*  `shortest x` is the shortest decimal that reads back as `x`:
   for 1, 2, … 17 digits the two neighbours of `x` on the grid of that many
   digits are tested, and the first grid with a hit gives the answer, of two
   hits the nearer one, an exact tie going to the even digit.  The fallback
   behind 17 digits is the exact expansion, so `shortest` reads back by
   construction.
2. *Reading.*  `scale?` multiplies or divides a number by a power of ten with
   one rounding while the power itself is a binary64 number (up to `10 ^ 308`),
   and in steps of `10 ^ 308` beyond.  A decimal text is read as its leading digits,
   rounded to binary64 and then scaled.  This is exact for up to 15 digits and
   powers up to `10 ^ 22`; beyond that the last bit may be off, and the result
   is still determined by this rule.
-/

namespace SearchRelay.Binary64

/-- A decimal `digits * 10 ^ exponent`. -/
structure Decimal where
  digits : Nat
  exponent : Int
  deriving DecidableEq, Repr

namespace Decimal

def ratio (d : Decimal) : Nat × Nat :=
  if 0 ≤ d.exponent then (d.digits * tenTo d.exponent.toNat, 1)
  else (d.digits, tenTo (-d.exponent).toNat)

def rank (d : Decimal) : Nat := rankOfRatio d.ratio.1 d.ratio.2

/-- Removes trailing zeros of the digits. -/
def normalize (d : Decimal) : Decimal :=
  go d.digits d
where
  go : Nat → Decimal → Decimal
    | 0, d => d
    | fuel + 1, d =>
      if d.digits ≠ 0 ∧ d.digits % 10 = 0 then go fuel ⟨d.digits / 10, d.exponent + 1⟩ else d

def digitChars (d : Decimal) : List Char := Nat.toDigits 10 d.digits

/-- The exponent of ten of the first digit. -/
def leading (d : Decimal) : Int := d.exponent + d.digitChars.length - 1

/-- Positional text, with at least one digit on each side of the point. -/
def positional (d : Decimal) : List Char :=
  let ds := d.digitChars
  if d.leading < 0 then
    '0' :: '.' :: (List.replicate (-d.leading - 1).toNat '0' ++ ds)
  else
    let whole := d.leading.toNat + 1
    if ds.length ≤ whole then ds ++ List.replicate (whole - ds.length) '0' ++ ['.', '0']
    else ds.take whole ++ '.' :: ds.drop whole

/-- Text with one digit before the point and a signed exponent. -/
def scientific (d : Decimal) : List Char :=
  let mantissa := match d.digitChars with
    | [] => ['0']
    | [c] => [c]
    | c :: cs => c :: '.' :: cs
  mantissa ++ 'e' :: (if d.leading < 0 then '-' else '+') :: Nat.toDigits 10 d.leading.natAbs

end Decimal

/-! ## Writing -/

/-- The exponent of ten of a positive number of units: the place of its first
digit.  No binary64 number is smaller than `10 ^ (-400)`. -/
def leadingExponent (units : Nat) : Int :=
  ((Nat.toDigits 10 (units * tenTo 400 / unitsInOne)).length : Int) - 401

/-- The grid point `n * 10 ^ e` at or below a number of units. -/
def gridFloor (units : Nat) (e : Int) : Nat :=
  if 0 ≤ e then units / (unitsInOne * tenTo e.toNat)
  else units * tenTo (-e).toNat / unitsInOne

/-- Twice the distance from the lower grid point, compared with the grid
width. -/
def gridSide (units : Nat) (e : Int) : Ordering :=
  let n := gridFloor units e
  if 0 ≤ e then
    compare (2 * (units - n * (unitsInOne * tenTo e.toNat))) (unitsInOne * tenTo e.toNat)
  else
    compare (2 * (units * tenTo (-e).toNat - n * unitsInOne)) unitsInOne

/-- The better neighbour on the grid of `10 ^ e` that reads back as `rank`. -/
def onGrid? (rank : Nat) (e : Int) : Option Decimal :=
  let units := unitsOf rank
  let n := gridFloor units e
  let low : Decimal := ⟨n, e⟩
  let high : Decimal := ⟨n + 1, e⟩
  let lowHits := low.rank = rank
  let highHits := high.rank = rank
  if lowHits ∧ highHits then
    match gridSide units e with
    | .lt => some low
    | .gt => some high
    | .eq => some (if n % 2 = 0 then low else high)
  else if lowHits then some low
  else if highHits then some high
  else none

def fiveTo (n : Nat) : Nat := Nat.pow 5 n

/-- The exact expansion of a number of units. -/
def exactDecimal (rank : Nat) : Decimal := ⟨unitsOf rank * fiveTo 1074, -1074⟩

/-- How many digits a grid has at most. -/
def mostDigits : Nat := 17

/-- The first of the grids with 1, 2, … digits that holds a decimal reading
back as `rank`, and the exact expansion if none does.  `top` is the exponent of
the first digit. -/
def shortestOf (rank : Nat) (top : Int) : Decimal :=
  ((List.range mostDigits).findSome? fun (more : Nat) => onGrid? rank (top - more)).getD
    (exactDecimal rank)

/-- The shortest decimal that reads back as the magnitude of `x`. -/
def shortest (x : Binary64) : Decimal :=
  if x.rank = 0 then ⟨0, 0⟩ else (shortestOf x.rank (leadingExponent x.units)).normalize

/-! ## Reading -/

/-- The largest power of ten below the finite limit has this exponent. -/
def largestPower : Nat := 308

/-- The number nearest to `10 ^ n`; nothing on overflow. -/
def powerOfTen? (n : Nat) : Option Binary64 := ofNat? (tenTo n)

/-- Divides by `10 ^ largestPower` a number of times, rounding each time. -/
def shrink? : Nat → Binary64 → Option Binary64
  | 0, x => some x
  | steps + 1, x =>
    if x.rank = 0 then some x
    else ((powerOfTen? largestPower).bind (div? x)).bind (shrink? steps)

/-- `x * 10 ^ e`, rounded once per power of ten applied; nothing on
overflow. -/
def scale? (x : Binary64) (e : Int) : Option Binary64 :=
  let n := e.natAbs
  if x.rank = 0 then some x
  else if 0 ≤ e then
    if n ≤ largestPower then (powerOfTen? n).bind (mul? x) else none
  else
    let steps := (n - 1) / largestPower
    (shrink? steps x).bind fun y => (powerOfTen? (n - largestPower * steps)).bind (div? y)

/-- Reads a sign, leading digits and an exponent of ten; nothing on
overflow. -/
def ofDecimal? (negative : Bool) (d : Decimal) : Option Binary64 :=
  ((ofNat? d.digits).bind (scale? · d.exponent)).map (withSign negative)

/-- Reads a decimal with one correct rounding; nothing on overflow. -/
def nearestDecimal? (negative : Bool) (d : Decimal) : Option Binary64 :=
  let size : Int := (Nat.toDigits 10 d.digits).length
  if d.digits = 0 then some { zero with negative }
  else if 400 < size + d.exponent then none
  else if size + d.exponent < -400 then some { zero with negative }
  else ofRank? negative d.rank

end SearchRelay.Binary64
