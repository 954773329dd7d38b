import SearchRelay.Binary64.Decimal

/-!
# SearchRelay.Proofs.Binary64.Decimal

The digits of a binary64 number.

`shortest_digits_eq_zero` states that only zero is written with the digit zero
alone, so that no other text of a number begins with a zero in front of its
first digit.
-/

namespace SearchRelay.Binary64

namespace Decimal

theorem tenTo_pos (n : Nat) : 0 < tenTo n := Nat.pow_pos (by decide)

theorem rank_of_digits_eq_zero {d : Decimal} (h : d.digits = 0) : d.rank = 0 := by
  have hround : ∀ den, 0 < den → roundHalfEven 0 den = 0 := by
    intro den hden
    simp [roundHalfEven, hden]
  have hratio : d.ratio.1 = 0 ∧ 0 < d.ratio.2 := by
    unfold ratio
    split
    · exact ⟨by simp [h], Nat.one_pos⟩
    · exact ⟨h, tenTo_pos _⟩
  rw [rank, hratio.1, rankOfRatio, Nat.zero_mul, rankOfUnits, Nat.zero_div,
    hround _ (Nat.mul_pos hratio.2 (twoTo_pos _))]
  rfl

theorem normalize_go_digits_ne_zero {d : Decimal} (fuel : Nat) (h : d.digits ≠ 0) :
    (normalize.go fuel d).digits ≠ 0 := by
  induction fuel generalizing d with
  | zero => exact h
  | succ fuel ih =>
      rw [normalize.go]
      split
      · apply ih
        dsimp only
        omega
      · exact h

/-- A number other than zero keeps digits when zeros at their end are dropped. -/
theorem normalize_digits_ne_zero {d : Decimal} (h : d.digits ≠ 0) : d.normalize.digits ≠ 0 :=
  normalize_go_digits_ne_zero d.digits h

end Decimal

open Decimal

theorem unitsOf_ne_zero {rank : Nat} (h : rank ≠ 0) : unitsOf rank ≠ 0 := by
  have hlt : unitsOf 0 < unitsOf rank := unitsOf_lt_unitsOf (Nat.pos_of_ne_zero h)
  omega

/-- What a choice between two neighbours gives has the wanted rank. -/
theorem rank_of_choice {rank n : Nat} {low high d : Decimal} {side : Ordering}
    (h : (if low.rank = rank ∧ high.rank = rank then
        match side with
        | .lt => some low
        | .gt => some high
        | .eq => some (if n % 2 = 0 then low else high)
      else if low.rank = rank then some low
      else if high.rank = rank then some high
      else none) = some d) : d.rank = rank := by
  split at h
  · next hboth =>
    split at h
    · rw [← Option.some.inj h]
      exact hboth.1
    · rw [← Option.some.inj h]
      exact hboth.2
    · rw [← Option.some.inj h]
      split
      · exact hboth.1
      · exact hboth.2
  · split at h
    · next hlow =>
      rw [← Option.some.inj h]
      exact hlow
    · split at h
      · next hhigh =>
        rw [← Option.some.inj h]
        exact hhigh
      · cases h

/-- What is found on a grid reads back. -/
theorem onGrid?_rank {rank : Nat} {e : Int} {d : Decimal} (h : onGrid? rank e = some d) :
    d.rank = rank := rank_of_choice h

theorem fiveTo_pos (n : Nat) : 0 < fiveTo n := Nat.pow_pos (by decide)

theorem exactDecimal_digits_ne_zero {rank : Nat} (h : rank ≠ 0) :
    (exactDecimal rank).digits ≠ 0 :=
  Nat.mul_ne_zero (unitsOf_ne_zero h) (Nat.ne_of_gt (fiveTo_pos 1074))

/-- The shortest decimal of a number other than zero is not zero. -/
theorem shortestOf_digits_ne_zero {rank : Nat} (h : rank ≠ 0) (top : Int) :
    (shortestOf rank top).digits ≠ 0 := by
  rw [shortestOf]
  generalize hfound : List.findSome? _ _ = found
  cases found with
  | none => exact exactDecimal_digits_ne_zero h
  | some d =>
      obtain ⟨more, _, hd⟩ := List.exists_of_findSome?_eq_some hfound
      intro hzero
      exact h ((onGrid?_rank hd).symm.trans (rank_of_digits_eq_zero hzero))

/-- Only zero has the digit zero alone, and it has no power of ten. -/
theorem shortest_digits_eq_zero {x : Binary64} (h : x.shortest.digits = 0) :
    x.shortest = ⟨0, 0⟩ := by
  unfold shortest at h ⊢
  split
  · rfl
  · next hrank =>
    rw [if_neg hrank] at h
    exact absurd h (normalize_digits_ne_zero (shortestOf_digits_ne_zero hrank _))

end SearchRelay.Binary64
