import SearchRelay.Proofs.Binary64.Decimal

/-!
# SearchRelay.Proofs.Binary64.Nearest

The number nearest to a decimal.

1. `rankOfUnits_congr` — the nearest rank depends on the value of a quotient
   only; `rank_shift` states this for decimals whose digits end with zeros;
2. `rankOfUnits_unitsOf` — a number is the one nearest to itself;
3. `rank_shortest` — so the shortest digits of a number belong to it;
4. `nearestDecimal?_of_rank` — a decimal whose nearest number is finite is read
   as this number.
-/

namespace SearchRelay.Binary64

/-! ## quotients -/

theorem twoTo_add (m n : Nat) : twoTo (m + n) = twoTo m * twoTo n := Nat.pow_add 2 m n

theorem le_log2_of_twoTo_le {n k : Nat} (h : twoTo k ≤ n) : k ≤ n.log2 :=
  (Nat.le_log2 (Nat.ne_of_gt (Nat.lt_of_lt_of_le (twoTo_pos k) h))).mpr h

/-- Rounding sees the quotient only, not how it is written. -/
theorem roundHalfEven_mul {k : Nat} (hk : 0 < k) (num den : Nat) :
    roundHalfEven (k * num) (k * den) = roundHalfEven num den := by
  have htwice : 2 * (k * (num % den)) = k * (2 * (num % den)) := Nat.mul_left_comm 2 k _
  simp only [roundHalfEven, Nat.mul_div_mul_left num den hk, Nat.mul_mod_mul_left, htwice,
    Nat.mul_lt_mul_left hk]

/-- So does the search for a rank. -/
theorem rankOfUnits_mul {k : Nat} (hk : 0 < k) (num den : Nat) :
    rankOfUnits (k * num) (k * den) = rankOfUnits num den := by
  simp only [rankOfUnits, Nat.mul_div_mul_left num den hk, Nat.mul_assoc, roundHalfEven_mul hk]

/-- Equal quotients have the same nearest rank. -/
theorem rankOfUnits_congr {num den num' den' : Nat} (hden : 0 < den) (hden' : 0 < den')
    (h : num * den' = num' * den) : rankOfUnits num den = rankOfUnits num' den' := by
  calc rankOfUnits num den
      = rankOfUnits (den' * num) (den' * den) := (rankOfUnits_mul hden' num den).symm
    _ = rankOfUnits (den * num') (den * den') := by
        rw [Nat.mul_comm den' num, h, Nat.mul_comm num' den, Nat.mul_comm den' den]
    _ = rankOfUnits num' den' := rankOfUnits_mul hden num' den'

/-- A whole quotient is not rounded. -/
theorem roundHalfEven_mul_self {den : Nat} (hden : 0 < den) (n : Nat) :
    roundHalfEven (n * den) den = n := by
  simp [roundHalfEven, Nat.mul_div_cancel n hden, hden]

/-- The significand and the scale of a number are those of its units. -/
theorem log2_unitsOf {rank : Nat} : (unitsOf rank).log2 - 52 = scaleOf rank := by
  unfold unitsOf significandOf
  by_cases hsmall : rank < binade
  · have hscale : scaleOf rank = 0 := by simp only [scaleOf, binade] at *; omega
    rw [if_pos hsmall, hscale, twoTo, Nat.pow_eq, Nat.pow_zero, Nat.mul_one]
    by_cases hzero : rank = 0
    · rw [hzero]
      rfl
    · have hlog : rank.log2 < 52 := (Nat.log2_lt hzero).mpr hsmall
      omega
  · have hlow : binade ≤ binade + rank % binade := Nat.le_add_right _ _
    have hhigh : binade + rank % binade < 2 * binade := by simp only [binade] at *; omega
    rw [if_neg hsmall]
    generalize binade + rank % binade = significand at hlow hhigh
    have hpos : significand * twoTo (scaleOf rank) ≠ 0 :=
      Nat.mul_ne_zero (by simp only [binade] at hlow; omega) (Nat.ne_of_gt (twoTo_pos _))
    have hlog : (significand * twoTo (scaleOf rank)).log2 = 52 + scaleOf rank := by
      rw [Nat.log2_eq_iff hpos, Nat.pow_add 2 52, Nat.add_right_comm, Nat.pow_add 2 (52 + 1)]
      exact ⟨Nat.mul_le_mul_right _ hlow, Nat.mul_lt_mul_of_pos_right hhigh (twoTo_pos _)⟩
    omega

/-- A number of units that has a rank is nearest to it. -/
theorem rankOfUnits_unitsOf (rank : Nat) : rankOfUnits (unitsOf rank) 1 = rank := by
  rw [rankOfUnits, Nat.div_one, log2_unitsOf, Nat.one_mul, unitsOf,
    roundHalfEven_mul_self (twoTo_pos _), significandOf, scaleOf]
  split
  · next hsmall => simp [Nat.div_eq_of_lt hsmall]
  · simp only [binade] at *
    omega

/-- Less than half a unit is nearest to zero. -/
theorem rankOfUnits_eq_zero {num den : Nat} (h : 2 * num < den) : rankOfUnits num den = 0 := by
  have hlt : num < den := by omega
  simp [rankOfUnits, Nat.div_eq_of_lt hlt, roundHalfEven, Nat.mod_eq_of_lt hlt, twoTo, h]

theorem div_le_roundHalfEven (num den : Nat) : num / den ≤ roundHalfEven num den := by
  unfold roundHalfEven
  dsimp only
  split
  · exact Nat.le_refl _
  · split
    · exact Nat.le_succ _
    · split
      · exact Nat.le_refl _
      · exact Nat.le_succ _

/-- What lies beyond the largest exponent has a rank beyond the finite ones. -/
theorem rankLimit_le_rankOfUnits {num den : Nat} (hden : 0 < den) (h : twoTo 2098 * den ≤ num) :
    rankLimit ≤ rankOfUnits num den := by
  have hquotient : twoTo 2098 ≤ num / den := (Nat.le_div_iff_mul_le hden).mpr h
  have hne : num / den ≠ 0 := Nat.ne_of_gt (Nat.lt_of_lt_of_le (twoTo_pos _) hquotient)
  have hlog : 2098 ≤ (num / den).log2 := le_log2_of_twoTo_le hquotient
  have hfloor : twoTo ((num / den).log2 - 52) * binade ≤ num / den := by
    have hpower : twoTo ((num / den).log2 - 52) * binade = 2 ^ (num / den).log2 := by
      have hsplit : (num / den).log2 = ((num / den).log2 - 52) + 52 := by omega
      calc twoTo ((num / den).log2 - 52) * binade
          = 2 ^ ((num / den).log2 - 52 + 52) := (Nat.pow_add 2 _ 52).symm
        _ = 2 ^ (num / den).log2 := by rw [← hsplit]
    rw [hpower]
    exact Nat.log2_self_le hne
  have hround : binade ≤ roundHalfEven num (den * twoTo ((num / den).log2 - 52)) := by
    refine Nat.le_trans ?_ (div_le_roundHalfEven _ _)
    rw [← Nat.div_div_eq_div_mul]
    exact (Nat.le_div_iff_mul_le (twoTo_pos _)).mpr (Nat.mul_comm _ _ ▸ hfloor)
  have hscale : 2046 * binade ≤ ((num / den).log2 - 52) * binade :=
    Nat.mul_le_mul_right _ (by omega)
  rw [rankOfUnits, rankLimit]
  omega

/-! ## decimals -/

namespace Decimal

theorem tenTo_add (m n : Nat) : tenTo (m + n) = tenTo m * tenTo n := Nat.pow_add 10 m n

theorem tenTo_le {m n : Nat} (h : m ≤ n) : tenTo m ≤ tenTo n := Nat.pow_le_pow_right (by decide) h

theorem ratio_pos (d : Decimal) : 0 < d.ratio.2 := by
  unfold ratio
  split
  · exact Nat.one_pos
  · exact tenTo_pos _

theorem ratio_of_neg (n : Nat) {k : Nat} (hk : 0 < k) : ratio ⟨n, -k⟩ = (n, tenTo k) := by
  have hneg : ¬ 0 ≤ -(k : Int) := by omega
  simp only [ratio, if_neg hneg, Int.neg_neg, Int.toNat_natCast]

theorem rank_of_ratio {d : Decimal} {num den : Nat} (h : d.ratio = (num, den)) :
    d.rank = rankOfUnits (num * unitsInOne) den := by
  rw [rank, h]
  rfl

/-- Decimals of one value have one nearest rank. -/
theorem rank_congr {d e : Decimal} (h : d.ratio.1 * e.ratio.2 = e.ratio.1 * d.ratio.2) :
    d.rank = e.rank := by
  refine rankOfUnits_congr d.ratio_pos e.ratio_pos ?_
  rw [Nat.mul_right_comm, h, Nat.mul_right_comm]

/-- Zeros at the end of the digits count as powers of ten. -/
theorem rank_shift (n k : Nat) (e : Int) : rank ⟨n * tenTo k, e⟩ = rank ⟨n, e + k⟩ := by
  apply rank_congr
  by_cases he : 0 ≤ e
  · have hsum : (e + k).toNat = k + e.toNat := by omega
    simp only [ratio, if_pos he, if_pos (show 0 ≤ e + k by omega), hsum, tenTo_add,
      Nat.mul_assoc]
  · by_cases hsum : 0 ≤ e + k
    · have hk : k = (e + k).toNat + (-e).toNat := by omega
      simp only [ratio, if_neg he, if_pos hsum, Nat.mul_one]
      calc n * tenTo k = n * tenTo ((e + k).toNat + (-e).toNat) := by rw [← hk]
        _ = n * tenTo (e + k).toNat * tenTo (-e).toNat := by rw [tenTo_add, Nat.mul_assoc]
    · have hneg : (-e).toNat = k + (-(e + k)).toNat := by omega
      simp only [ratio, if_neg he, if_neg hsum, hneg, tenTo_add, Nat.mul_assoc]

theorem rank_normalize_go (fuel : Nat) (d : Decimal) : (normalize.go fuel d).rank = d.rank := by
  induction fuel generalizing d with
  | zero => rfl
  | succ fuel ih =>
      rw [normalize.go]
      split
      · next hzero =>
        have hdigits : d.digits / 10 * tenTo 1 = d.digits :=
          Nat.div_mul_cancel (Nat.dvd_of_mod_eq_zero hzero.2)
        rw [ih]
        calc rank ⟨d.digits / 10, d.exponent + 1⟩
            = rank ⟨d.digits / 10 * tenTo 1, d.exponent⟩ := (rank_shift _ 1 _).symm
          _ = d.rank := by rw [hdigits]
      · rfl

/-- Zeros at the end of the digits do not count. -/
theorem rank_normalize (d : Decimal) : d.normalize.rank = d.rank := rank_normalize_go _ d

/-! ## the size of a decimal -/

/-- The number of digits. -/
def size (d : Decimal) : Nat := (Nat.toDigits 10 d.digits).length

theorem size_pos (d : Decimal) : 0 < d.size := List.length_pos_iff.mpr Nat.toDigits_ne_nil

/-- Digits are bounded by their number. -/
theorem digits_lt (d : Decimal) : d.digits < tenTo d.size :=
  (Nat.length_toDigits_le_iff (by decide) d.size_pos).mp (Nat.le_refl _)

theorem le_digits {d : Decimal} (h : d.digits ≠ 0) : tenTo (d.size - 1) ≤ d.digits := by
  by_cases hone : d.size = 1
  · rw [hone]
    exact Nat.pos_of_ne_zero h
  · have hpos := d.size_pos
    refine Nat.le_of_not_lt fun hlt => ?_
    have hshort := (Nat.length_toDigits_le_iff (by decide) (by omega)).mpr hlt
    exact absurd hshort (by simp only [size] at hpos ⊢; omega)

/-- No finite number is nearest to a decimal with its first digit that far in
front of the point. -/
theorem rankLimit_le_rank {d : Decimal} (hdigits : d.digits ≠ 0) (h : 400 < d.size + d.exponent) :
    rankLimit ≤ d.rank := by
  have hpos := d.size_pos
  have hlarge : tenTo 400 * d.ratio.2 ≤ d.ratio.1 := by
    unfold ratio
    split
    · next he =>
      have hsplit : 400 ≤ d.size - 1 + d.exponent.toNat := by omega
      calc tenTo 400 * 1 ≤ tenTo (d.size - 1 + d.exponent.toNat) := by
            rw [Nat.mul_one]
            exact tenTo_le hsplit
        _ = tenTo (d.size - 1) * tenTo d.exponent.toNat := tenTo_add _ _
        _ ≤ d.digits * tenTo d.exponent.toNat := Nat.mul_le_mul_right _ (le_digits hdigits)
    · next he =>
      have hsplit : 400 + (-d.exponent).toNat ≤ d.size - 1 := by omega
      calc tenTo 400 * tenTo (-d.exponent).toNat
          = tenTo (400 + (-d.exponent).toNat) := (tenTo_add _ _).symm
        _ ≤ tenTo (d.size - 1) := tenTo_le hsplit
        _ ≤ d.digits := le_digits hdigits
  have hpowers : twoTo 1024 ≤ tenTo 400 := by decide +kernel
  apply rankLimit_le_rankOfUnits d.ratio_pos
  calc twoTo (1024 + 1074) * d.ratio.2
      = twoTo 1024 * d.ratio.2 * unitsInOne := by
        rw [twoTo_add, Nat.mul_right_comm, unitsInOne]
    _ ≤ tenTo 400 * d.ratio.2 * unitsInOne :=
        Nat.mul_le_mul_right _ (Nat.mul_le_mul_right _ hpowers)
    _ ≤ d.ratio.1 * unitsInOne := Nat.mul_le_mul_right _ hlarge

/-- Zero is nearest to a decimal with its first digit that far behind the
point. -/
theorem rank_eq_zero {d : Decimal} (h : d.size + d.exponent < -400) : d.rank = 0 := by
  have hneg : ¬ 0 ≤ d.exponent := by omega
  obtain ⟨more, hmore, hsplit⟩ : ∃ more, 401 ≤ more ∧ (-d.exponent).toNat = d.size + more :=
    ⟨(-d.exponent).toNat - d.size, by omega, by omega⟩
  have hpowers : 2 * unitsInOne ≤ tenTo 401 := by decide +kernel
  have hgrow : tenTo 401 ≤ tenTo more := tenTo_le hmore
  rw [rank, rankOfRatio, ratio, if_neg hneg, hsplit]
  apply rankOfUnits_eq_zero
  calc 2 * (d.digits * unitsInOne)
      = d.digits * (2 * unitsInOne) := Nat.mul_left_comm _ _ _
    _ < tenTo d.size * tenTo more :=
        Nat.mul_lt_mul_of_lt_of_le d.digits_lt (Nat.le_trans hpowers hgrow) (tenTo_pos _)
    _ = tenTo (d.size + more) := (tenTo_add _ _).symm

end Decimal

/-! ## writing and reading -/

/- The exact decimal of a double is the double. A shorter one is written only if it is
read as the same double, which is checked, so nothing depends on how it was found. -/

open Decimal

/-- The exact expansion belongs to its number. -/
theorem rank_exactDecimal (rank : Nat) : (exactDecimal rank).rank = rank := by
  have hratio : (exactDecimal rank).ratio = (unitsOf rank * fiveTo 1074, tenTo 1074) :=
    ratio_of_neg _ (by decide)
  have hpower : ∀ n, fiveTo n * twoTo n = tenTo n := fun n => (Nat.mul_pow 5 2 n).symm
  calc (exactDecimal rank).rank
      = rankOfUnits (unitsOf rank * fiveTo 1074 * unitsInOne) (tenTo 1074) := rank_of_ratio hratio
    _ = rankOfUnits (unitsOf rank) 1 := by
        apply rankOfUnits_congr (tenTo_pos _) Nat.one_pos
        rw [Nat.mul_one, Nat.mul_assoc, unitsInOne, hpower]
    _ = rank := rankOfUnits_unitsOf rank

/-- The shortest decimal reads back as its number. -/
theorem rank_shortestOf (rank : Nat) (top : Int) : (shortestOf rank top).rank = rank := by
  rw [shortestOf]
  generalize hfound : List.findSome? _ _ = found
  cases found with
  | none => exact rank_exactDecimal rank
  | some d =>
      obtain ⟨more, _, hd⟩ := List.exists_of_findSome?_eq_some hfound
      exact onGrid?_rank hd

/-- The shortest digits of a number belong to it. -/
theorem rank_shortest (x : Binary64) : x.shortest.rank = x.rank := by
  unfold shortest
  split
  · next hzero => rw [hzero, rank_of_digits_eq_zero rfl]
  · rw [rank_normalize, rank_shortestOf]

/-- A decimal whose nearest number is finite is read as this number. -/
theorem nearestDecimal?_of_rank {x : Binary64} {d : Decimal} (h : d.rank = x.rank) :
    nearestDecimal? x.negative d = some x := by
  have hzero : x.rank = 0 → { zero with negative := x.negative } = x := by
    intro hrank
    cases x
    cases hrank
    rfl
  unfold nearestDecimal?
  dsimp only
  split
  · next hdigits => rw [hzero (h ▸ rank_of_digits_eq_zero hdigits)]
  · next hdigits =>
    split
    · next hlarge =>
      -- such a decimal is nearest to no finite number, but `x` is finite
      have hfinite := x.rank_lt
      have hbeyond := rankLimit_le_rank hdigits hlarge
      omega
    · split
      · next hsmall => rw [hzero (h ▸ rank_eq_zero hsmall)]
      · rw [ofRank?, dif_pos (h ▸ x.rank_lt)]
        cases x
        simp [h]

end SearchRelay.Binary64
