import SvgBuilder.Proofs.Number.Rounding

/-!
# Rounding decimals

A decimal is rounded like the quotient that it is.  What lies so far outside the range that the
quotient is not computed is near to zero, or to no finite magnitude.

## Main results

* `IsNear.lt_ten_zpow`: what is near to a finite magnitude is not far outside the range.
* `ofDecimal_eq`: a decimal near to a magnitude is rounded to its rank.
-/

namespace SvgBuilder.Number

open Double

variable {rank : Nat}

theorem two_pow_le_ten_pow : 2 ^ 1075 ≤ 10 ^ 330 := by decide +kernel

theorem two_pow_lt_ten_pow : 2 ^ 1024 < 10 ^ 320 := by decide +kernel

/-- Less than half of the smallest unit is near to zero only. -/
theorem IsNear.eq_zero {u : ℚ} (h : IsNear rank u) (hu : u < 1 / 2) : rank = 0 := by
  by_contra hr
  have hSignificand : (1 : ℚ) ≤ significand rank := by
    exact_mod_cast Nat.pos_of_ne_zero (significand_ne_zero hr)
  have hQuarters := quartersBelow_le rank
  have hAbove := h.above
  linarith

theorem two_zpow_le_unit (rank : Nat) : (2 : ℚ) ^ (-1074 : Int) ≤ unit rank := by
  unfold unit scale
  exact zpow_le_zpow_right₀ (by norm_num) (by omega)

theorem unit_le (hr : rank < finiteRanks) : unit rank ≤ (2 : ℚ) ^ (971 : Int) := by
  unfold unit scale binade
  unfold finiteRanks binadeSize at hr
  exact zpow_le_zpow_right₀ (by norm_num) (by unfold binadeSize; omega)

/-- What is near to a finite magnitude has at most 309 integer digits. -/
theorem IsNear.lt_ten_zpow {q : ℚ} (h : IsNear rank (q / unit rank)) (hr : rank < finiteRanks) :
    q < 10 ^ (320 : Int) := by
  have hBelow := (div_le_iff₀ (unit_pos rank)).1 h.below
  have hSignificand : (significand rank : ℚ) + 1 ≤ 2 * binadeSize := by
    exact_mod_cast significand_lt rank
  have hPos := unit_pos rank
  calc q ≤ (significand rank + 1 / 2) * unit rank := hBelow
    _ ≤ (2 * binadeSize) * 2 ^ (971 : Int) :=
      mul_le_mul (by linarith) (unit_le hr) hPos.le (by positivity)
    _ = 2 ^ (1024 : Int) := by
      rw [binadeSize_cast, ← zpow_one_add₀ (by norm_num), ← zpow_add₀ (by norm_num)]
      norm_num
    _ < 10 ^ (320 : Int) := by
      exact_mod_cast two_pow_lt_ten_pow

theorem ofRatio_eq {num den : Nat} (hd : 0 < den) (h : IsNear rank (num / den / unit rank))
    (hr : rank < finiteRanks) (negative : Bool) :
    ofRatio negative num den = .finite negative ⟨rank, hr⟩ := by
  unfold ofRatio
  split
  · next hn =>
      rw [hn, Nat.cast_zero, zero_div, zero_div] at h
      obtain rfl := h.eq_zero (by norm_num)
      rw [ofRank, dif_pos hr]
  · next hn => rw [rankOfRatio_eq (Nat.pos_of_ne_zero hn) hd h, ofRank, dif_pos hr]

section Decimal

variable {digits count : Nat} {exponent : Int}

/-- A decimal far below the range is less than half of any unit. -/
theorem decimal_lt_half (hHigh : digits < 10 ^ count) (hSmall : exponent + count < -330) :
    (digits * 10 ^ exponent / unit rank : ℚ) < 1 / 2 := by
  have hPower : (0 : ℚ) < 10 ^ exponent := zpow_pos (by norm_num) _
  have hDigits : (digits : ℚ) < 10 ^ (count : Int) := by exact_mod_cast hHigh
  have hUnit := two_zpow_le_unit rank
  rw [div_lt_iff₀ (unit_pos rank)]
  calc (digits : ℚ) * 10 ^ exponent < 10 ^ (count : Int) * 10 ^ exponent := by gcongr
    _ = 10 ^ (exponent + count) := by rw [← zpow_add₀ (by norm_num), add_comm]
    _ ≤ 10 ^ (-330 : Int) := zpow_le_zpow_right₀ (by norm_num) (by omega)
    _ ≤ 2 ^ (-1075 : Int) := by
      have hPow : (2 : ℚ) ^ (1075 : Int) ≤ 10 ^ (330 : Int) := by
        exact_mod_cast two_pow_le_ten_pow
      rw [zpow_neg, zpow_neg]
      exact inv_anti₀ (zpow_pos (by norm_num) _) hPow
    _ = 1 / 2 * 2 ^ (-1074 : Int) := by
      rw [one_div, ← zpow_neg_one, ← zpow_add₀ (by norm_num)]
      norm_num
    _ ≤ 1 / 2 * unit rank := by gcongr

/-- A decimal far above the range has more than 320 digits before its point. -/
theorem ten_zpow_le_decimal (hCount : 0 < count) (hLow : 10 ^ (count - 1) ≤ digits)
    (hLarge : 320 < exponent + count) : (10 : ℚ) ^ (320 : Int) ≤ digits * 10 ^ exponent := by
  have hDigits : (10 : ℚ) ^ ((count : Int) - 1) ≤ digits := by
    have hExponent : (count : Int) - 1 = ((count - 1 : Nat) : Int) := by omega
    rw [hExponent, zpow_natCast]
    exact_mod_cast hLow
  calc (10 : ℚ) ^ (320 : Int) ≤ 10 ^ ((count : Int) - 1 + exponent) :=
        zpow_le_zpow_right₀ (by norm_num) (by omega)
    _ = 10 ^ ((count : Int) - 1) * 10 ^ exponent := zpow_add₀ (by norm_num) _ _
    _ ≤ digits * 10 ^ exponent := by gcongr

/-- A decimal near to a magnitude is rounded to its rank. -/
theorem ofDecimal_eq (hHigh : digits < 10 ^ count)
    (hLow : digits ≠ 0 → 0 < count ∧ 10 ^ (count - 1) ≤ digits)
    (h : IsNear rank (digits * 10 ^ exponent / unit rank)) (hr : rank < finiteRanks)
    (negative : Bool) :
    ofDecimal negative digits count exponent = .finite negative ⟨rank, hr⟩ := by
  unfold ofDecimal
  by_cases hSmall : digits = 0 ∨ exponent + count < -330
  · have hHalf : (digits * 10 ^ exponent / unit rank : ℚ) < 1 / 2 := by
      rcases hSmall with rfl | hSmall
      · rw [Nat.cast_zero, zero_mul, zero_div]
        norm_num
      · exact decimal_lt_half hHigh hSmall
    obtain rfl := h.eq_zero hHalf
    rw [if_pos hSmall, ofRank, dif_pos hr]
  rw [if_neg hSmall]
  by_cases hLarge : 320 < exponent + count
  · obtain ⟨hCount, hLow⟩ := hLow (not_or.1 hSmall).1
    have hReach := ten_zpow_le_decimal hCount hLow hLarge
    exact absurd (h.lt_ten_zpow hr) (not_lt.2 hReach)
  rw [if_neg hLarge]
  by_cases hExponent : 0 ≤ exponent
  · rw [if_pos hExponent]
    refine ofRatio_eq Nat.one_pos ?_ hr negative
    rwa [Nat.cast_mul, cast_pow_toNat 10 hExponent, Nat.cast_one, div_one]
  · have hDen : 0 < Nat.pow 10 (-exponent).toNat := Nat.pow_pos (by norm_num)
    rw [if_neg hExponent]
    refine ofRatio_eq hDen ?_ hr negative
    rw [cast_pow_toNat 10 (by omega), zpow_neg, div_inv_eq_mul]
    exact h

end Decimal

end SvgBuilder.Number
