/-!
# SearchRelay.Binary64

Finite binary64 numbers as data.  A magnitude is named by its *rank*: its
place among the non-negative binary64 numbers in increasing order.  Zero has
rank 0, the successor of a number has the next rank, and the ranks below
`2047 * 2 ^ 52` are exactly the finite ones.

A rank below `2 ^ 52` is a subnormal significand; above, the quotient by
`2 ^ 52` is the biased exponent and the remainder the stored fraction.  All
magnitudes are multiples of `2 ^ (-1074)`, so arithmetic is done on natural
numbers counted in that unit: `units x` is the exact value of `x` times
`2 ^ 1074`.

Main statements:

1. `unitsOf_lt_unitsOf` — a larger rank is a larger value;
2. `rankOfRatio` rounds a quotient of natural numbers to the nearest rank, a
   tie to the even significand.
-/

namespace SearchRelay

namespace Binary64

def twoTo (n : Nat) : Nat := Nat.pow 2 n

theorem twoTo_pos (n : Nat) : 0 < twoTo n := Nat.two_pow_pos n

theorem twoTo_succ (n : Nat) : twoTo (n + 1) = 2 * twoTo n := Nat.mul_comm _ _

def tenTo (n : Nat) : Nat := Nat.pow 10 n

/-- The number of ranks that share an exponent, `2 ^ 52`. -/
def binade : Nat := 4503599627370496

/-- The number of finite magnitudes. -/
def rankLimit : Nat := 2047 * binade

end Binary64

/-- A finite binary64 number: its sign, and the rank of its magnitude. -/
structure Binary64 where
  negative : Bool
  rank : Nat
  rank_lt : rank < Binary64.rankLimit
  deriving DecidableEq

namespace Binary64

def zero : Binary64 := ⟨false, 0, by decide⟩

instance : Inhabited Binary64 := ⟨zero⟩

def withSign (negative : Bool) (x : Binary64) : Binary64 := { x with negative }

/-! ## Significand and scale -/

/-- The integer significand of a rank. -/
def significandOf (rank : Nat) : Nat :=
  if rank < binade then rank else binade + rank % binade

/-- The power of two that the significand of a rank is multiplied with, in
units of `2 ^ (-1074)`. -/
def scaleOf (rank : Nat) : Nat := rank / binade - 1

/-- The exact magnitude of a rank, in units of `2 ^ (-1074)`. -/
def unitsOf (rank : Nat) : Nat := significandOf rank * twoTo (scaleOf rank)

/-- The exact magnitude, in units of `2 ^ (-1074)`. -/
def units (x : Binary64) : Nat := unitsOf x.rank

/-- The number of units in one. -/
def unitsInOne : Nat := twoTo 1074

/-- The next rank has more units, within a binade and into the next one. -/
theorem unitsOf_succ_gt (rank : Nat) : unitsOf rank < unitsOf (rank + 1) := by
  unfold unitsOf significandOf scaleOf
  have hb : 0 < binade := by decide
  by_cases h : rank < binade
  · have h0 : rank / binade = 0 := Nat.div_eq_of_lt h
    by_cases h' : rank + 1 < binade
    · have h1 : (rank + 1) / binade = 0 := Nat.div_eq_of_lt h'
      rw [if_pos h, if_pos h', h0, h1]
      exact Nat.mul_lt_mul_of_pos_right (Nat.lt_succ_self rank) (twoTo_pos _)
    · have he : rank + 1 = binade := by omega
      rw [if_pos h, if_neg h', h0, he, Nat.div_self hb, Nat.mod_self]
      exact Nat.mul_lt_mul_of_pos_right h (twoTo_pos _)
  · have h' : ¬ rank + 1 < binade := by omega
    rw [if_neg h, if_neg h']
    by_cases hm : rank % binade = binade - 1
    · have hd : (rank + 1) / binade = rank / binade + 1 := by simp only [binade] at *; omega
      have hr : (rank + 1) % binade = 0 := by simp only [binade] at *; omega
      have hs : rank / binade + 1 - 1 = (rank / binade - 1) + 1 := by
        simp only [binade] at *; omega
      rw [hd, hr, hm, hs, twoTo_succ, ← Nat.mul_assoc]
      exact Nat.mul_lt_mul_of_pos_right (by omega) (twoTo_pos _)
    · have hd : (rank + 1) / binade = rank / binade := by simp only [binade] at *; omega
      have hr : (rank + 1) % binade = rank % binade + 1 := by simp only [binade] at *; omega
      rw [hd, hr]
      exact Nat.mul_lt_mul_of_pos_right (by omega) (twoTo_pos _)

/-- The rank order is the order of the values. -/
theorem unitsOf_lt_unitsOf {a b : Nat} (h : a < b) : unitsOf a < unitsOf b := by
  induction b with
  | zero => omega
  | succ b ih =>
    rcases Nat.lt_succ_iff_lt_or_eq.1 h with hlt | heq
    · exact Nat.lt_trans (ih hlt) (unitsOf_succ_gt b)
    · exact heq ▸ unitsOf_succ_gt b

/-! ## Rounding -/

/-- The quotient `num / den` rounded to the nearest natural number, a tie to
the even one. -/
def roundHalfEven (num den : Nat) : Nat :=
  let q := num / den
  let r := num % den
  if 2 * r < den then q
  else if den < 2 * r then q + 1
  else if q % 2 = 0 then q else q + 1

/-- The rank nearest to the quotient `num / den` of units, a tie to the even
significand.  The result may lie beyond the finite ranks. -/
def rankOfUnits (num den : Nat) : Nat :=
  let scale := (num / den).log2 - 52
  scale * binade + roundHalfEven num (den * twoTo scale)

/-- The rank nearest to the quotient `num / den`. -/
def rankOfRatio (num den : Nat) : Nat := rankOfUnits (num * unitsInOne) den

/-- The number of a sign and a rank; nothing if the rank is beyond the finite
ones. -/
def ofRank? (negative : Bool) (rank : Nat) : Option Binary64 :=
  if h : rank < rankLimit then some ⟨negative, rank, h⟩ else none

def ofRatio? (negative : Bool) (num den : Nat) : Option Binary64 :=
  ofRank? negative (rankOfRatio num den)

/-- The number nearest to a natural number; nothing on overflow. -/
def ofNat? (n : Nat) : Option Binary64 := ofRatio? false n 1

/-- The number nearest to an integer; nothing on overflow. -/
def ofInt? (i : Int) : Option Binary64 := ofRatio? (decide (i < 0)) i.natAbs 1

/-! ## Product and quotient -/

def mul? (x y : Binary64) : Option Binary64 :=
  ofRank? (x.negative != y.negative) (rankOfUnits (x.units * y.units) unitsInOne)

/-- The rounded quotient by a number that is not zero; nothing on overflow or
if the divisor is zero. -/
def div? (x y : Binary64) : Option Binary64 :=
  if y.rank = 0 then none
  else ofRank? (x.negative != y.negative) (rankOfRatio x.units y.units)

end Binary64

end SearchRelay
