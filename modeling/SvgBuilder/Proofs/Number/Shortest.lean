import SvgBuilder.Proofs.Number.Digits
import SvgBuilder.Proofs.Number.Rounding

/-!
# The shortest decimal of a magnitude

The grids of decimals around a magnitude are tried one after the other.  A grid point is taken only
if it is near to the magnitude, so whatever is found rounds to it; and on the grid of seventeen
digits the nearest point is always near enough, so something is found.

## Main results

* `roundsTo_iff`: the test of the ends of the interval is nearness.
* `isSome_candidate?_seventeen`: seventeen digits suffice.
* `shortest_isNear`: the shortest decimal is near to its magnitude.
-/

namespace SvgBuilder.Number

open Double

variable {rank : Nat}

/-! ## Magnitudes as fractions -/

theorem fraction_snd_pos (rank : Nat) : 0 < (fraction rank).2 := by
  unfold fraction
  split
  · exact Nat.one_pos
  · exact Nat.pow_pos (by norm_num)

theorem fraction_eq (rank : Nat) :
    ((fraction rank).1 : ℚ) / (fraction rank).2 = magnitude rank := by
  unfold fraction magnitude unit
  split
  · next h => rw [Nat.cast_mul, cast_pow_toNat 2 h, Nat.cast_one, div_one, Nat.cast_ofNat]
  · next h => rw [cast_pow_toNat 2 (by omega), zpow_neg, div_inv_eq_mul, Nat.cast_ofNat]

theorem magnitude_pos (h : rank ≠ 0) : 0 < magnitude rank :=
  mul_pos (by exact_mod_cast Nat.pos_of_ne_zero (significand_ne_zero h)) (unit_pos rank)

theorem magnitude_eq_zero_iff : magnitude rank = 0 ↔ rank = 0 := by
  constructor
  · intro h
    by_contra hr
    exact (magnitude_pos hr).ne' h
  · rintro rfl
    have hZero : significand 0 = 0 := rfl
    rw [magnitude, hZero, Nat.cast_zero, zero_mul]

theorem fraction_zero : (fraction 0).1 = 0 := by
  unfold fraction
  split
  · exact Nat.zero_mul _
  · rfl

theorem fraction_fst_pos (h : rank ≠ 0) : 0 < (fraction rank).1 := by
  have hPos := magnitude_pos h
  rw [← fraction_eq] at hPos
  by_contra hZero
  rw [Nat.eq_zero_of_not_pos hZero, Nat.cast_zero, zero_div] at hPos
  exact hPos.false

/-! ## Nearness -/

theorem isNear_significand (rank : Nat) : IsNear rank (significand rank) := by
  have hQuarters : (0 : ℚ) < quartersBelow rank := by
    unfold quartersBelow
    split <;> norm_num
  refine ⟨?_, ?_, fun _ => ⟨?_, ?_⟩⟩ <;> linarith

/-- A number of units that differs from the significand by less than the sixteenth digit is near. -/
theorem isNear_of_abs_sub_le {u : ℚ}
    (h : |u - significand rank| ≤ significand rank / (2 * 10 ^ 16)) : IsNear rank u := by
  obtain ⟨hLow, hHigh⟩ := abs_le.1 h
  have hSignificand : (significand rank : ℚ) + 1 ≤ 2 * binadeSize := by
    exact_mod_cast significand_lt rank
  have hSize : (binadeSize : ℚ) = 4503599627370496 := by norm_num [binadeSize]
  have hQuarter : (significand rank : ℚ) - quartersBelow rank / 4 < u := by
    unfold quartersBelow
    split
    · next hPower =>
        rw [hPower.1, hSize] at hLow ⊢
        norm_num at hLow ⊢
        linarith
    · norm_num at hLow ⊢
      linarith
  have hHalf : u < significand rank + 1 / 2 := by
    norm_num at hHigh ⊢
    linarith
  exact ⟨hQuarter.le, hHalf.le, fun _ => ⟨hQuarter, hHalf⟩⟩

section Quarters

variable {num den : Nat} (hd : 0 < den)

include hd

theorem mul_le_iff_quarters (n : Nat) : n * den ≤ num ↔ (n / 4 : ℚ) ≤ num / den / 4 := by
  have hDen : (0 : ℚ) < den := by exact_mod_cast hd
  rw [← Nat.cast_le (α := ℚ), Nat.cast_mul, ← le_div_iff₀ hDen]
  constructor <;> intro h <;> linarith

theorem le_mul_iff_quarters (n : Nat) : num ≤ n * den ↔ (num / den / 4 : ℚ) ≤ n / 4 := by
  have hDen : (0 : ℚ) < den := by exact_mod_cast hd
  rw [← Nat.cast_le (α := ℚ), Nat.cast_mul, ← div_le_iff₀ hDen]
  constructor <;> intro h <;> linarith

/-- The test of the ends of the interval is nearness. -/
theorem roundsTo_iff (hr : rank ≠ 0) :
    roundsTo rank num den = true ↔ IsNear rank (num / den / 4) := by
  have hLow : ((4 * significand rank - quartersBelow rank : Nat) / 4 : ℚ) =
      significand rank - quartersBelow rank / 4 := by
    have hQuarters : quartersBelow rank ≤ 2 := by exact_mod_cast quartersBelow_le rank
    have hSignificand := Nat.pos_of_ne_zero (significand_ne_zero hr)
    rw [Nat.cast_sub (by omega)]
    push_cast
    ring
  have hHigh : ((4 * significand rank + 2 : Nat) / 4 : ℚ) = significand rank + 1 / 2 := by
    push_cast
    ring
  show (if significand rank % 2 = 0 then
      decide ((4 * significand rank - quartersBelow rank) * den ≤ num) &&
        decide (num ≤ (4 * significand rank + 2) * den)
    else decide ((4 * significand rank - quartersBelow rank) * den < num) &&
      decide (num < (4 * significand rank + 2) * den)) = true ↔ _
  by_cases hEven : significand rank % 2 = 0
  · rw [if_pos hEven, Bool.and_eq_true, decide_eq_true_iff, decide_eq_true_iff,
      mul_le_iff_quarters hd, le_mul_iff_quarters hd, hLow, hHigh]
    constructor
    · intro h
      exact ⟨h.1, h.2, fun hOdd => by omega⟩
    · intro h
      exact ⟨h.above, h.below⟩
  · rw [if_neg hEven, Bool.and_eq_true, decide_eq_true_iff, decide_eq_true_iff, ← not_le, ← not_le,
      le_mul_iff_quarters hd, mul_le_iff_quarters hd, hLow, hHigh, not_le, not_le]
    constructor
    · intro h
      exact ⟨h.1.le, h.2.le, fun _ => h⟩
    · intro h
      exact h.inside (by omega)

end Quarters

/-! ## The grids -/

/-- The magnitude reaches up to the place of its first digit. -/
theorem decimalPoint_le {num den : Nat} (hn : 0 < num) (hd : 0 < den) :
    (10 : ℚ) ^ (decimalPoint num den - 1) ≤ num / den := by
  have hDen : (0 : ℚ) < den := by exact_mod_cast hd
  unfold decimalPoint
  split
  · next hLe =>
      have hQuotient : 0 < num / den := Nat.div_pos hLe hd
      obtain ⟨-, hPos, hCount⟩ := digitCount_spec (num / den)
      have hPower : ((10 ^ (digitCount (num / den) - 1) : Nat) : ℚ) ≤ (num / den : Nat) := by
        exact_mod_cast hCount (by omega)
      have hExponent : (digitCount (num / den) : Int) - 1 =
          ((digitCount (num / den) - 1 : Nat) : Int) := by omega
      rw [hExponent, zpow_natCast]
      push_cast at hPower
      exact hPower.trans Nat.cast_div_le
  · obtain ⟨hLt, -, -⟩ := digitCount_spec ((den - 1) / num)
    generalize digitCount ((den - 1) / num) = count at hLt
    have hReach : den ≤ 10 ^ count * num := by
      have hMul := (Nat.div_lt_iff_lt_mul hn).1 hLt
      omega
    have hReach' : (den : ℚ) ≤ 10 ^ count * num := by exact_mod_cast hReach
    have hExponent : (1 : Int) - count - 1 = -count := by omega
    rw [hExponent, zpow_neg, zpow_natCast, le_div_iff₀ hDen, inv_mul_le_iff₀ (by positivity)]
    exact hReach'

/-- The exponent of the grid with that many digits. -/
def gridExponent (rank digits : Nat) : Int :=
  decimalPoint (fraction rank).1 (fraction rank).2 - digits

/-- The magnitude as a fraction in units of the grid. -/
def gridFraction (rank digits : Nat) : Nat × Nat :=
  let exponent := gridExponent rank digits
  (if 0 ≤ exponent then (fraction rank).1
    else (fraction rank).1 * Nat.pow 10 (-exponent).toNat,
  if 0 ≤ exponent then (fraction rank).2 * Nat.pow 10 exponent.toNat else (fraction rank).2)

/-- Whether a grid point rounds to the magnitude. -/
def isHit (rank digits n : Nat) : Bool :=
  roundsTo rank (4 * significand rank * n * (gridFraction rank digits).2)
    (gridFraction rank digits).1

theorem candidate?_eq (rank digits : Nat) :
    candidate? rank digits =
      (let up := (gridFraction rank digits).1
      let down := (gridFraction rank digits).2
      let low := up / down
      if isHit rank digits low &&
          ((2 * (up % down) < down || (2 * (up % down) = down && low % 2 = 0)) ||
            !isHit rank digits (low + 1)) then
        some ⟨low, gridExponent rank digits⟩
      else if isHit rank digits (low + 1) then some ⟨low + 1, gridExponent rank digits⟩
      else none) := rfl

theorem gridFraction_snd_pos (rank digits : Nat) : 0 < (gridFraction rank digits).2 := by
  unfold gridFraction
  dsimp only
  split
  · exact Nat.mul_pos (fraction_snd_pos rank) (Nat.pow_pos (by norm_num))
  · exact fraction_snd_pos rank

theorem gridFraction_eq (rank digits : Nat) :
    ((gridFraction rank digits).1 : ℚ) / (gridFraction rank digits).2 =
      magnitude rank / 10 ^ gridExponent rank digits := by
  rw [← fraction_eq]
  unfold gridFraction
  dsimp only
  split
  · next h =>
      rw [Nat.cast_mul, cast_pow_toNat 10 h, Nat.cast_ofNat, div_div]
  · next h =>
      rw [Nat.cast_mul, cast_pow_toNat 10 (by omega), zpow_neg, Nat.cast_ofNat]
      ring

theorem gridFraction_fst_pos (hr : rank ≠ 0) (digits : Nat) :
    0 < (gridFraction rank digits).1 := by
  unfold gridFraction
  dsimp only
  split
  · exact fraction_fst_pos hr
  · exact Nat.mul_pos (fraction_fst_pos hr) (Nat.pow_pos (by norm_num))

/-- A grid point that rounds to the magnitude is near to it. -/
theorem isHit_iff (hr : rank ≠ 0) (digits n : Nat) :
    isHit rank digits n = true ↔ IsNear rank (n * 10 ^ gridExponent rank digits / unit rank) := by
  have hUp : ((gridFraction rank digits).1 : ℚ) ≠ 0 := by
    exact_mod_cast (gridFraction_fst_pos hr digits).ne'
  have hDown : ((gridFraction rank digits).2 : ℚ) ≠ 0 := by
    exact_mod_cast (gridFraction_snd_pos rank digits).ne'
  have hGrid : (10 : ℚ) ^ gridExponent rank digits ≠ 0 := zpow_ne_zero _ (by norm_num)
  have hUnit := (unit_pos rank).ne'
  have hSignificand : (significand rank : ℚ) ≠ 0 := by
    exact_mod_cast significand_ne_zero hr
  have hUnits : ((4 * significand rank * n * (gridFraction rank digits).2 : Nat) : ℚ) /
      (gridFraction rank digits).1 / 4 = n * 10 ^ gridExponent rank digits / unit rank := by
    have hFraction := gridFraction_eq rank digits
    rw [div_eq_div_iff hDown hGrid, magnitude] at hFraction
    push_cast
    field_simp
    linear_combination -n * hFraction
  rw [isHit, roundsTo_iff (gridFraction_fst_pos hr digits) hr, hUnits]

/-! ## The search -/

theorem candidate?_isNear (hr : rank ≠ 0) {digits : Nat} {d : Decimal}
    (h : candidate? rank digits = some d) :
    IsNear rank (d.coefficient * 10 ^ d.exponent / unit rank) := by
  rw [candidate?_eq] at h
  dsimp only at h
  split at h
  · next hHit =>
      obtain rfl := Option.some.inj h
      exact (isHit_iff hr _ _).1 (Bool.and_eq_true_iff.1 hHit).1
  · split at h
    · next hHit =>
        obtain rfl := Option.some.inj h
        exact (isHit_iff hr _ _).1 hHit
    · exact nomatch h

theorem isSome_candidate? {digits : Nat}
    (h : isHit rank digits ((gridFraction rank digits).1 / (gridFraction rank digits).2) = true ∨
      isHit rank digits ((gridFraction rank digits).1 / (gridFraction rank digits).2 + 1) = true) :
    (candidate? rank digits).isSome = true := by
  rw [candidate?_eq]
  dsimp only
  split
  · rfl
  · next hLow =>
      rcases h with h | h
      · rw [h, Bool.true_and, Bool.or_eq_true, not_or, Bool.not_eq_true', Bool.not_eq_false] at hLow
        rw [if_pos hLow.2]
        rfl
      · rw [if_pos h]
        rfl

/-- A point of the grid of seventeen digits that is at most half a step away rounds to the
magnitude. -/
theorem isHit_seventeen (hr : rank ≠ 0) {n : Nat}
    (h : |(n : ℚ) - (gridFraction rank 17).1 / (gridFraction rank 17).2| ≤ 1 / 2) :
    isHit rank 17 n = true := by
  rw [isHit_iff hr]
  apply isNear_of_abs_sub_le
  have hReach := decimalPoint_le (fraction_fst_pos hr) (fraction_snd_pos rank)
  rw [fraction_eq] at hReach
  have hExponent : decimalPoint (fraction rank).1 (fraction rank).2 - 1 =
      16 + gridExponent rank 17 := by
    unfold gridExponent
    omega
  have hUnit := unit_pos rank
  have hGrid : (0 : ℚ) < 10 ^ gridExponent rank 17 := zpow_pos (by norm_num) _
  rw [hExponent, zpow_add₀ (by norm_num)] at hReach
  rw [gridFraction_eq] at h
  generalize (10 : ℚ) ^ gridExponent rank 17 = step at *
  have hScale : (n : ℚ) * step / unit rank - significand rank =
      (n - magnitude rank / step) * (step / unit rank) := by
    unfold magnitude
    field_simp
  have hStep : step / unit rank ≤ significand rank / 10 ^ 16 := by
    rw [magnitude] at hReach
    rw [div_le_div_iff₀ hUnit (by norm_num)]
    norm_num at hReach ⊢
    linarith
  calc |(n : ℚ) * step / unit rank - significand rank|
      = |(n : ℚ) - magnitude rank / step| * (step / unit rank) := by
        rw [hScale, abs_mul, abs_of_pos (div_pos hGrid hUnit)]
    _ ≤ 1 / 2 * (significand rank / 10 ^ 16) := by gcongr
    _ = significand rank / (2 * 10 ^ 16) := by ring

/-- Seventeen digits suffice. -/
theorem isSome_candidate?_seventeen (hr : rank ≠ 0) : (candidate? rank 17).isSome = true := by
  apply isSome_candidate?
  have hHit := fun n => isHit_seventeen hr (n := n)
  have hDown := gridFraction_snd_pos rank 17
  generalize (gridFraction rank 17).1 = up at *
  generalize (gridFraction rank 17).2 = down at *
  have hDown' : (0 : ℚ) < down := by exact_mod_cast hDown
  have hDiv : (up : ℚ) / down = (up / down : Nat) + (up % down : Nat) / down := by
    rw [div_eq_iff hDown'.ne', add_mul, div_mul_cancel₀ _ hDown'.ne']
    exact_mod_cast (Nat.div_add_mod' up down).symm
  have hRest : (0 : ℚ) ≤ (up % down : Nat) / down := by positivity
  have hRestLe : ((up % down : Nat) : ℚ) / down ≤ 1 := by
    rw [div_le_one hDown']
    exact_mod_cast (Nat.mod_lt up hDown).le
  by_cases hHalf : ((up % down : Nat) : ℚ) / down ≤ 1 / 2
  · refine .inl (hHit _ ?_)
    rw [hDiv, abs_le]
    constructor <;> linarith
  · refine .inr (hHit _ ?_)
    rw [hDiv, Nat.cast_succ, abs_le]
    constructor <;> linarith

theorem shortestFrom_eq_some {digits more grids : Nat} (hMore : more < grids)
    (h : (candidate? rank (digits + more)).isSome = true) :
    ∃ d k, shortestFrom rank digits grids = some d ∧ candidate? rank k = some d := by
  induction grids generalizing digits more with
  | zero => exact absurd hMore (Nat.not_lt_zero more)
  | succ grids ih =>
    rw [shortestFrom]
    cases hFirst : candidate? rank digits with
    | some d => exact ⟨d, digits, rfl, hFirst⟩
    | none =>
      cases more with
      | zero =>
        rw [Nat.add_zero, hFirst] at h
        exact nomatch h
      | succ more =>
        have hNext : digits + (more + 1) = digits + 1 + more := by omega
        exact ih (Nat.lt_of_succ_lt_succ hMore) (hNext ▸ h)

/-- The zeros that a coefficient ends with do not count. -/
theorem reduced_value (d : Decimal) (steps : Nat) :
    ((d.reduced steps).coefficient : ℚ) * 10 ^ (d.reduced steps).exponent =
      d.coefficient * 10 ^ d.exponent := by
  induction steps generalizing d with
  | zero => rfl
  | succ steps ih =>
    rw [Decimal.reduced]
    split
    · next h =>
        have hTen : (d.coefficient : ℚ) = (d.coefficient / 10 : Nat) * 10 := by
          exact_mod_cast (Nat.div_mul_cancel (Nat.dvd_of_mod_eq_zero h.1)).symm
        rw [ih, hTen, zpow_add_one₀ (by norm_num)]
        push_cast
        ring
    · rfl

/-- The shortest decimal is near to its magnitude. -/
theorem shortest_isNear (hr : rank ≠ 0) :
    IsNear rank ((shortest rank).coefficient * 10 ^ (shortest rank).exponent / unit rank) := by
  have hSome : (candidate? rank (1 + 16)).isSome = true := isSome_candidate?_seventeen hr
  obtain ⟨d, k, hFrom, hCandidate⟩ := shortestFrom_eq_some (show 16 < 17 by omega) hSome
  rw [shortest, if_neg hr, hFrom, Option.getD_some, reduced_value]
  exact candidate?_isNear hr hCandidate

end SvgBuilder.Number
