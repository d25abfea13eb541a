/-!
# Double precision numbers

A binary floating-point number of 64 bits.  The finite magnitudes stand in one row: the number of
rank 0 is zero and every next rank is the next larger magnitude, `binadeSize` of them to a binade.
Rank `r` has the value `significand r * 2 ^ scale r`, and a real number is rounded to the nearest
rank, a tie going to the even one.  Everything here is exact arithmetic on natural numbers.

## Main results

* `significand_lt`: a significand has at most 53 bits.
* `rank_eq`: significand and scale determine the rank.
-/

namespace SvgBuilder.Number

/-- The number of magnitudes in a binade: the power of two with the exponent 52. -/
def binadeSize : Nat := 4503599627370496

/-- The number of finite magnitudes. -/
def finiteRanks : Nat := 2047 * binadeSize

/-- A binary floating-point number of 64 bits. -/
inductive Double where
  /-- The finite number of the given sign and rank of magnitude. -/
  | finite (negative : Bool) (rank : Fin finiteRanks)
  /-- The infinity of the given sign. -/
  | infinite (negative : Bool)
  /-- Not a number. -/
  | nan
  deriving DecidableEq, Repr

/-- The integer that a magnitude is a multiple of a power of two by. -/
def significand (rank : Nat) : Nat :=
  if rank < binadeSize then rank else binadeSize + rank % binadeSize

/-- The number of binades above the lowest one: the magnitude is `significand * 2 ^ scale`
with `scale = binade - 1074`. -/
def binade (rank : Nat) : Nat := rank / binadeSize - 1

/-- The exponent of two of a magnitude. -/
def scale (rank : Nat) : Int := (binade rank : Int) - 1074

theorem significand_lt (rank : Nat) : significand rank < 2 * binadeSize := by
  unfold significand binadeSize
  split <;> omega

theorem rank_eq (rank : Nat) : rank = binade rank * binadeSize + significand rank := by
  unfold significand binade binadeSize
  split <;> omega

namespace Double

/-- Positive zero. -/
def zero : Double := .finite false ⟨0, by decide⟩

/-- Whether the number is finite. -/
def isFinite : Double → Bool
  | .finite .. => true
  | _ => false

/-- The number of a sign and a rank; ranks beyond the last finite one are infinite. -/
def ofRank (negative : Bool) (rank : Nat) : Double :=
  if h : rank < finiteRanks then .finite negative ⟨rank, h⟩ else .infinite negative

/-- The integer nearest to a quotient, a tie going to the even one. -/
def divNearest (num den : Nat) : Nat :=
  let low := num / den
  let twice := 2 * (num % den)
  if twice < den ∨ (twice = den ∧ low % 2 = 0) then low else low + 1

/-- The rank nearest to `num / den`, in the binade that the quotient belongs to. -/
def rankOfRatio (num den : Nat) : Nat :=
  let top : Int := (Nat.log2 num : Int) - Nat.log2 den
  -- the power of two that does not exceed the quotient
  let floor : Int :=
    if (if 0 ≤ top then num < den * Nat.pow 2 top.toNat
        else num * Nat.pow 2 (-top).toNat < den) then
      top - 1 else top
  let level : Nat := (floor - 52 + 1074).toNat
  let exponent : Int := (level : Int) - 1074
  let significand :=
    if 0 ≤ exponent then divNearest num (den * Nat.pow 2 exponent.toNat)
    else divNearest (num * Nat.pow 2 (-exponent).toNat) den
  level * binadeSize + significand

/-- The number nearest to `± num / den`. -/
def ofRatio (negative : Bool) (num den : Nat) : Double :=
  if num = 0 then ofRank negative 0 else ofRank negative (rankOfRatio num den)

/-- The number nearest to `± digits * 10 ^ exponent`.  What lies far outside the range is not
computed. -/
def ofDecimal (negative : Bool) (digits digitCount : Nat) (exponent : Int) : Double :=
  if digits = 0 ∨ exponent + digitCount < -330 then ofRank negative 0
  else if 320 < exponent + digitCount then .infinite negative
  else if 0 ≤ exponent then ofRatio negative (digits * Nat.pow 10 exponent.toNat) 1
  else ofRatio negative digits (Nat.pow 10 (-exponent).toNat)

/-! ## Exact values -/

/-- The magnitude of a rank as a fraction. -/
def fraction (rank : Nat) : Nat × Nat :=
  if 0 ≤ scale rank then (significand rank * Nat.pow 2 (scale rank).toNat, 1)
  else (significand rank, Nat.pow 2 (-scale rank).toNat)

/-- The integer part of a magnitude. -/
def integerPart (rank : Nat) : Nat := (fraction rank).1 / (fraction rank).2

/-- Whether a magnitude is an integer. -/
def isIntegral (rank : Nat) : Bool := (fraction rank).1 % (fraction rank).2 = 0

/-- A natural number with a sign. -/
def withSign (negative : Bool) (n : Nat) : Int := if negative then -(n : Int) else n

/-! ## Sums and products -/

/-- The sign and the fraction of a finite number. -/
def signedFraction (negative : Bool) (rank : Nat) : Int × Nat :=
  (withSign negative (fraction rank).1, (fraction rank).2)

/-- The number nearest to a signed fraction.  `whenZero` is the sign of an exact zero. -/
def ofSigned (whenZero : Bool) (num : Int) (den : Nat) : Double :=
  ofRatio (if num = 0 then whenZero else num < 0) num.natAbs den

/-- The nearest number to the sum. -/
def add : Double → Double → Double
  | .finite na ra, .finite nb rb =>
    let a := signedFraction na ra
    let b := signedFraction nb rb
    ofSigned (na && nb) (a.1 * b.2 + b.1 * a.2) (a.2 * b.2)
  | .infinite na, .infinite nb => if na = nb then .infinite na else .nan
  | .infinite na, .finite .. => .infinite na
  | .finite .., .infinite nb => .infinite nb
  | _, _ => .nan

/-- The nearest number to a natural number. -/
def ofNat (n : Nat) : Double := ofRatio false n 1

/-- The nearest number to the product. -/
def mul : Double → Double → Double
  | .finite na ra, .finite nb rb =>
    let a := fraction ra
    let b := fraction rb
    ofRatio (na != nb) (a.1 * b.1) (a.2 * b.2)
  | .infinite na, .infinite nb => .infinite (na != nb)
  | .infinite na, .finite nb rb => if rb.val = 0 then .nan else .infinite (na != nb)
  | .finite na ra, .infinite nb => if ra.val = 0 then .nan else .infinite (na != nb)
  | _, _ => .nan

/-- The number of the opposite sign. -/
def negate : Double → Double
  | .finite n r => .finite (!n) r
  | .infinite n => .infinite (!n)
  | .nan => .nan

end Double

end SvgBuilder.Number
