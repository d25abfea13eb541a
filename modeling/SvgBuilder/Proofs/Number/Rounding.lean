import Mathlib
import SvgBuilder.Number.Shortest

/-!
# Rounding to the nearest double

A quotient is rounded by the binade that it lies in and by the integer that is nearest to it in
units of that binade.  `IsNear rank u` says that a real of `u` units rounds to the magnitude of a
rank: it is no further away than half a unit, and below a power of two no further than a quarter;
the ends belong to even significands.

Only there, a quarter of a unit below a power of two, is the quotient in the binade below.  It has
twice as many of the smaller units then, and rounds to the same rank.

## Main results

* `floorLog_spec`: the power of two that does not exceed a quotient.
* `rankOfRatio_eq`: whatever is near to a magnitude is rounded to its rank.
-/

namespace SvgBuilder.Number

/-- The unit of a magnitude. -/
def unit (rank : Nat) : ℚ := 2 ^ scale rank

/-- The value of a magnitude. -/
def magnitude (rank : Nat) : ℚ := significand rank * unit rank

/-- How many quarters of a unit below a magnitude still round to it. -/
def quartersBelow (rank : Nat) : Nat :=
  if significand rank = binadeSize ∧ 0 < binade rank then 1 else 2

/-- Whether a number of units rounds to a magnitude. -/
structure IsNear (rank : Nat) (u : ℚ) : Prop where
  above : (significand rank : ℚ) - quartersBelow rank / 4 ≤ u
  below : u ≤ significand rank + 1 / 2
  /-- The ends round to an even significand. -/
  inside : significand rank % 2 = 1 →
    (significand rank : ℚ) - quartersBelow rank / 4 < u ∧ u < significand rank + 1 / 2

theorem quartersBelow_le (rank : Nat) : (quartersBelow rank : ℚ) ≤ 2 := by
  unfold quartersBelow
  split <;> norm_num

theorem significand_ne_zero {rank : Nat} (h : rank ≠ 0) : significand rank ≠ 0 := by
  unfold significand binadeSize
  split <;> omega

theorem unit_pos (rank : Nat) : 0 < unit rank := zpow_pos (by norm_num) _

/-! ## The nearest integer -/

/-- Whether an integer is what a real rounds to, a tie going to the even one. -/
structure IsNearest (n : Nat) (u : ℚ) : Prop where
  above : (n : ℚ) - 1 / 2 ≤ u
  below : u ≤ n + 1 / 2
  /-- The ends round to an even integer. -/
  inside : n % 2 = 1 → (n : ℚ) - 1 / 2 < u ∧ u < n + 1 / 2

/-- What rounds to a magnitude rounds to its significand. -/
theorem IsNear.isNearest {rank : Nat} {u : ℚ} (h : IsNear rank u) :
    IsNearest (significand rank) u := by
  have hQuarters := quartersBelow_le rank
  have hAbove := h.above
  refine ⟨by linarith, h.below, fun hOdd => ?_⟩
  obtain ⟨hLow, hHigh⟩ := h.inside hOdd
  exact ⟨by linarith, hHigh⟩

/-- What it means to round to an integer, without fractions. -/
theorem IsNearest.bounds {num den n : Nat} (hd : 0 < den) (h : IsNearest n (num / den)) :
    2 * (den * n) ≤ 2 * num + den ∧ 2 * num ≤ 2 * (den * n) + den ∧
      (n % 2 = 1 → 2 * (den * n) < 2 * num + den ∧ 2 * num < 2 * (den * n) + den) := by
  have hDen : (0 : ℚ) < den := by exact_mod_cast hd
  obtain ⟨hLow, hHigh, hOdd⟩ := h
  rw [le_div_iff₀ hDen] at hLow
  rw [div_le_iff₀ hDen] at hHigh
  rw [lt_div_iff₀ hDen, div_lt_iff₀ hDen] at hOdd
  refine ⟨?_, ?_, fun h => ?_⟩
  · have hBound : (2 * (den * n) : ℚ) ≤ 2 * num + den := by linarith
    exact_mod_cast hBound
  · have hBound : (2 * num : ℚ) ≤ 2 * (den * n) + den := by linarith
    exact_mod_cast hBound
  · obtain ⟨hLow, hHigh⟩ := hOdd h
    have hAbove : (2 * (den * n) : ℚ) < 2 * num + den := by linarith
    have hBelow : (2 * num : ℚ) < 2 * (den * n) + den := by linarith
    exact ⟨by exact_mod_cast hAbove, by exact_mod_cast hBelow⟩

namespace Double

theorem divNearest_eq {num den n : Nat} (hd : 0 < den) (h : IsNearest n (num / den)) :
    divNearest num den = n := by
  obtain ⟨hLow, hHigh, hOdd⟩ := h.bounds hd
  have hDiv := Nat.div_add_mod num den
  have hMod := Nat.mod_lt num hd
  unfold divNearest
  dsimp only
  generalize num / den = low at *
  generalize num % den = rest at *
  subst hDiv
  have hLe : low ≤ n := by
    by_contra hLt
    have hMul : den * (n + 1) ≤ den * low := Nat.mul_le_mul_left den (by omega)
    have hExpand : den * (n + 1) = den * n + den := Nat.mul_succ den n
    omega
  have hGe : n ≤ low + 1 := by
    by_contra hLt
    have hMul : den * (low + 2) ≤ den * n := Nat.mul_le_mul_left den (by omega)
    have hExpand : den * (low + 2) = den * low + 2 * den := by ring
    omega
  by_cases hLt : low < n
  · obtain rfl : n = low + 1 := by omega
    rw [Nat.mul_succ] at hLow hHigh hOdd
    rw [if_neg]
    omega
  · obtain rfl : n = low := by omega
    rw [if_pos]
    omega

/-! ## The binade of a quotient -/

/-- The exponent of the power of two that does not exceed a quotient. -/
def floorLog (num den : Nat) : Int :=
  let top : Int := (Nat.log2 num : Int) - Nat.log2 den
  if (if 0 ≤ top then num < den * Nat.pow 2 top.toNat else num * Nat.pow 2 (-top).toNat < den) then
    top - 1
  else top

/-- The binade that a quotient is rounded in. -/
def level (num den : Nat) : Nat := (floorLog num den - 52 + 1074).toNat

/-- The integer nearest to a quotient in units of a power of two. -/
def roundedAt (num den : Nat) (exponent : Int) : Nat :=
  if 0 ≤ exponent then divNearest num (den * Nat.pow 2 exponent.toNat)
  else divNearest (num * Nat.pow 2 (-exponent).toNat) den

theorem rankOfRatio_eq_level (num den : Nat) :
    rankOfRatio num den =
      level num den * binadeSize + roundedAt num den ((level num den : Int) - 1074) := rfl

theorem cast_pow_toNat (base : Nat) {e : Int} (he : 0 ≤ e) :
    ((Nat.pow base e.toNat : Nat) : ℚ) = (base : ℚ) ^ e := by
  obtain ⟨n, rfl⟩ := Int.eq_ofNat_of_zero_le he
  simp

variable {num den : Nat} (hn : 0 < num) (hd : 0 < den)

include hd in
theorem lt_two_zpow_iff (num : Nat) (e : Int) :
    (if 0 ≤ e then num < den * Nat.pow 2 e.toNat else num * Nat.pow 2 (-e).toNat < den) ↔
      (num / den : ℚ) < 2 ^ e := by
  have hDen : (0 : ℚ) < den := by exact_mod_cast hd
  rw [div_lt_iff₀ hDen]
  split
  · next he =>
      rw [← Nat.cast_lt (α := ℚ), Nat.cast_mul, cast_pow_toNat 2 he, mul_comm]
      rfl
  · next he =>
      have hPow : (0 : ℚ) < 2 ^ e := zpow_pos (by norm_num) e
      rw [← Nat.cast_lt (α := ℚ), Nat.cast_mul, cast_pow_toNat 2 (by omega), zpow_neg,
        ← div_eq_mul_inv, Nat.cast_ofNat, div_lt_iff₀ hPow, mul_comm]

include hn hd in
theorem floorLog_spec :
    (2 : ℚ) ^ floorLog num den ≤ num / den ∧ (num / den : ℚ) < 2 ^ (floorLog num den + 1) := by
  have hDen : (0 : ℚ) < den := by exact_mod_cast hd
  have hTwo : (2 : ℚ) ≠ 0 := by norm_num
  have hNumLow : (2 : ℚ) ^ (Nat.log2 num : Int) ≤ num := by
    exact_mod_cast Nat.log2_self_le (by omega)
  have hNumHigh : (num : ℚ) < 2 ^ ((Nat.log2 num : Int) + 1) := by
    exact_mod_cast Nat.lt_log2_self
  have hDenLow : (2 : ℚ) ^ (Nat.log2 den : Int) ≤ den := by
    exact_mod_cast Nat.log2_self_le (by omega)
  have hDenHigh : (den : ℚ) < 2 ^ ((Nat.log2 den : Int) + 1) := by
    exact_mod_cast Nat.lt_log2_self
  unfold floorLog
  dsimp only
  generalize hTop : (Nat.log2 num : Int) - Nat.log2 den = top
  have hTest := lt_two_zpow_iff hd num top
  by_cases hLt : (num / den : ℚ) < 2 ^ top
  · rw [if_pos (hTest.2 hLt)]
    have hPower : (2 : ℚ) ^ (top - 1) * 2 ^ ((Nat.log2 den : Int) + 1) =
        2 ^ (Nat.log2 num : Int) := by
      rw [← zpow_add₀ hTwo]
      congr 1
      omega
    have hPos : (0 : ℚ) < 2 ^ (top - 1) := zpow_pos (by norm_num) _
    refine ⟨?_, by simpa using hLt⟩
    rw [le_div_iff₀ hDen]
    nlinarith
  · rw [if_neg (mt hTest.1 hLt)]
    have hPower : (2 : ℚ) ^ (top + 1) * 2 ^ (Nat.log2 den : Int) =
        2 ^ ((Nat.log2 num : Int) + 1) := by
      rw [← zpow_add₀ hTwo]
      congr 1
      omega
    have hPos : (0 : ℚ) < 2 ^ (top + 1) := zpow_pos (by norm_num) _
    refine ⟨le_of_not_gt hLt, ?_⟩
    rw [div_lt_iff₀ hDen]
    nlinarith

include hn hd in
theorem floorLog_lt_iff (k : Int) : floorLog num den < k ↔ (num / den : ℚ) < 2 ^ k := by
  obtain ⟨hLow, hHigh⟩ := floorLog_spec hn hd
  constructor
  · intro h
    exact hHigh.trans_le (zpow_le_zpow_right₀ (by norm_num) (by omega))
  · intro h
    by_contra hGe
    have hMono : (2 : ℚ) ^ k ≤ 2 ^ floorLog num den :=
      zpow_le_zpow_right₀ (by norm_num) (by omega)
    linarith

/-- The integer nearest to a quotient of units. -/
theorem roundedAt_eq {num den n : Nat} {exponent : Int} (hd : 0 < den)
    (h : IsNearest n (num / den / 2 ^ exponent)) : roundedAt num den exponent = n := by
  unfold roundedAt
  split
  · next he =>
      have hPow : ((den * Nat.pow 2 exponent.toNat : Nat) : ℚ) = den * 2 ^ exponent := by
        rw [Nat.cast_mul, cast_pow_toNat 2 he, Nat.cast_ofNat]
      have hPos : 0 < den * Nat.pow 2 exponent.toNat :=
        Nat.mul_pos hd (Nat.pow_pos (by norm_num))
      rw [div_div, ← hPow] at h
      exact divNearest_eq hPos h
  · next he =>
      have hPow : ((num * Nat.pow 2 (-exponent).toNat : Nat) : ℚ) / den =
          num / den / 2 ^ exponent := by
        rw [Nat.cast_mul, cast_pow_toNat 2 (by omega), zpow_neg, Nat.cast_ofNat]
        ring
      rw [← hPow] at h
      exact divNearest_eq hd h

/-! ## Rounding to a rank -/

theorem binadeSize_le_significand {rank : Nat} (h : 0 < binade rank) :
    binadeSize ≤ significand rank := by
  unfold binade at h
  unfold significand
  rw [if_neg (by unfold binadeSize at *; omega)]
  omega

theorem binadeSize_cast : (binadeSize : ℚ) = 2 ^ (52 : Int) := by
  norm_num [binadeSize]

section Near

variable {rank : Nat} (h : IsNear rank (num / den / unit rank))

include hn hd h

omit hn hd h in
theorem lt_two_zpow_units (k : Int) :
    (num / den : ℚ) < 2 ^ (scale rank + k) ↔ (num / den / unit rank : ℚ) < 2 ^ k := by
  rw [div_lt_iff₀ (unit_pos rank), unit, ← zpow_add₀ (by norm_num), add_comm k]

theorem floorLog_lt : floorLog num den < scale rank + 53 := by
  rw [floorLog_lt_iff hn hd, lt_two_zpow_units]
  have hSignificand : (significand rank : ℚ) + 1 ≤ 2 * 2 ^ (52 : Int) := by
    rw [← binadeSize_cast]
    exact_mod_cast significand_lt rank
  have hPower : (2 : ℚ) ^ (53 : Int) = 2 * 2 ^ (52 : Int) := by norm_num
  have hBelow := h.below
  linarith

/-- A quotient in the binade of the magnitude, or in the lowest one, keeps the unit. -/
theorem level_eq_binade (hb : binade rank = 0 ∨ scale rank + 52 ≤ floorLog num den) :
    level num den = binade rank := by
  have hLt := floorLog_lt hn hd h
  unfold level
  unfold scale at *
  omega

omit hn in
theorem rankOfRatio_eq_of_level (hl : level num den = binade rank) :
    rankOfRatio num den = rank := by
  have hRounded : roundedAt num den ((level num den : Int) - 1074) = significand rank := by
    rw [hl]
    exact roundedAt_eq hd h.isNearest
  rw [rankOfRatio_eq_level, hRounded, hl, ← rank_eq]

omit h in
theorem units_lt_binadeSize (hLt : floorLog num den < scale rank + 52) :
    (num / den / unit rank : ℚ) < binadeSize := by
  rw [binadeSize_cast, ← lt_two_zpow_units, ← floorLog_lt_iff hn hd]
  exact hLt

/-- A quotient below the binade of the magnitude is at most a quarter of a unit below a power of
two. -/
theorem significand_eq_of_lt (hb : 0 < binade rank) (hLt : floorLog num den < scale rank + 52) :
    significand rank = binadeSize ∧ (binadeSize : ℚ) - 1 / 4 ≤ num / den / unit rank := by
  have hUnits := units_lt_binadeSize hn hd hLt
  have hAbove := h.above
  have hSignificand : significand rank = binadeSize := by
    by_contra hne
    have hNext : (binadeSize : ℚ) + 1 ≤ significand rank := by
      have hLe := binadeSize_le_significand hb
      exact_mod_cast Nat.lt_of_le_of_ne hLe (Ne.symm hne)
    have hQuarters := quartersBelow_le rank
    linarith
  have hQuarters : (quartersBelow rank : ℚ) = 1 := by simp [quartersBelow, hSignificand, hb]
  rw [hQuarters, hSignificand] at hAbove
  exact ⟨hSignificand, hAbove⟩

/-- Such a quotient is rounded in the binade below. -/
theorem level_eq_of_lt (hb : 0 < binade rank) (hLt : floorLog num den < scale rank + 52) :
    level num den = binade rank - 1 := by
  obtain ⟨-, hAbove⟩ := significand_eq_of_lt hn hd h hb hLt
  have hFloor : scale rank + 51 ≤ floorLog num den := by
    by_contra hBelow
    have hHalf := (floorLog_lt_iff hn hd _).1 (not_le.1 hBelow)
    rw [lt_two_zpow_units] at hHalf
    have hPower : (2 : ℚ) ^ (51 : Int) = binadeSize / 2 := by norm_num [binadeSize]
    have hLarge : (1 : ℚ) ≤ binadeSize := by norm_num [binadeSize]
    linarith
  unfold level
  unfold scale at *
  omega

/-- There are twice as many of its units, so the next power of two is the nearest integer. -/
theorem rankOfRatio_eq_of_lt (hb : 0 < binade rank) (hLt : floorLog num den < scale rank + 52) :
    rankOfRatio num den = rank := by
  obtain ⟨hSignificand, hAbove⟩ := significand_eq_of_lt hn hd h hb hLt
  have hUnits := units_lt_binadeSize hn hd hLt
  have hLevel := level_eq_of_lt hn hd h hb hLt
  have hExponent : ((level num den : Int) - 1074) = scale rank - 1 := by
    unfold scale
    omega
  have hDouble : (num / den / 2 ^ (scale rank - 1) : ℚ) = 2 * (num / den / unit rank) := by
    rw [zpow_sub_one₀ (by norm_num), unit]
    ring
  have hRounded : roundedAt num den ((level num den : Int) - 1074) = 2 * binadeSize := by
    rw [hExponent]
    refine roundedAt_eq hd ?_
    rw [hDouble]
    constructor
    · push_cast
      linarith
    · push_cast
      linarith
    · omega
  have hRank := rank_eq rank
  obtain ⟨b, hBinade⟩ : ∃ b, binade rank = b + 1 := ⟨binade rank - 1, by omega⟩
  rw [rankOfRatio_eq_level, hRounded, hLevel, hBinade, Nat.add_sub_cancel]
  rw [hSignificand, hBinade, Nat.add_mul] at hRank
  omega

/-- Whatever is near to a magnitude is rounded to its rank. -/
theorem rankOfRatio_eq : rankOfRatio num den = rank := by
  by_cases hb : binade rank = 0
  · exact rankOfRatio_eq_of_level hd h (level_eq_binade hn hd h (.inl hb))
  by_cases hLt : floorLog num den < scale rank + 52
  · exact rankOfRatio_eq_of_lt hn hd h (Nat.pos_of_ne_zero hb) hLt
  · exact rankOfRatio_eq_of_level hd h (level_eq_binade hn hd h (.inr (not_lt.1 hLt)))

end Near

end Double

end SvgBuilder.Number
