import SvgBuilder.Number.Digits
import SvgBuilder.Number.Double

/-!
# Shortest decimals

A finite number is written with the fewest digits that are read back as it.  The reals that round
to a magnitude form an interval around it, whose ends belong to it when the significand is even.
For one digit, two digits and so on, the two neighbours of the magnitude on that decimal grid are
tested; the first grid with a neighbour in the interval gives the digits, and of two neighbours
the nearer one is taken, or the even one if both are equally near.

## Main results

* `text_ne_nil`: a decimal is written with at least one character.
-/

namespace SvgBuilder.Number

/-- The decimal `coefficient * 10 ^ exponent`. -/
structure Decimal where
  coefficient : Nat
  exponent : Int
  deriving DecidableEq, Repr

/-- Four times the ends of the interval of reals that round to a magnitude, in units of its
power of two. -/
def roundingInterval (rank : Nat) : Nat × Nat :=
  let m := significand rank
  -- the gap below a power of two is half the gap above it
  let below := if m = binadeSize ∧ 0 < binade rank then 1 else 2
  (4 * m - below, 4 * m + 2)

/-- Whether `num / den`, in units of a quarter of the magnitude's power of two, rounds to the
magnitude. -/
def roundsTo (rank num den : Nat) : Bool :=
  let (low, high) := roundingInterval rank
  if significand rank % 2 = 0 then low * den ≤ num && num ≤ high * den
  else low * den < num && num < high * den

/-- The exponent `k` with `10 ^ (k - 1) ≤ num / den < 10 ^ k`. -/
def decimalPoint (num den : Nat) : Int :=
  if den ≤ num then digitCount (num / den) else 1 - (digitCount ((den - 1) / num) : Int)

/-- The decimal of at most `digits` digits that rounds to the magnitude and is the nearest to it
of its grid, if there is one.  A tie goes to the even coefficient. -/
def candidate? (rank digits : Nat) : Option Decimal :=
  let (num, den) := Double.fraction rank
  let exponent : Int := decimalPoint num den - digits
  -- the magnitude is `up / down` in units of the grid
  let up := if 0 ≤ exponent then num else num * Nat.pow 10 (-exponent).toNat
  let down := if 0 ≤ exponent then den * Nat.pow 10 exponent.toNat else den
  let low := up / down
  -- a grid point is four times its share of the magnitude in the interval's units
  let near (n : Nat) : Bool := roundsTo rank (4 * significand rank * n * down) up
  let twice := 2 * (up % down)
  let preferLow := twice < down || (twice = down && low % 2 = 0)
  if near low && (preferLow || !near (low + 1)) then some ⟨low, exponent⟩
  else if near (low + 1) then some ⟨low + 1, exponent⟩
  else none

/-- The first of the grids from `digits` digits on that has a candidate. -/
def shortestFrom (rank digits : Nat) : Nat → Option Decimal
  | 0 => none
  | grids + 1 =>
    match candidate? rank digits with
    | some decimal => some decimal
    | none => shortestFrom rank (digits + 1) grids

/-- The decimal without the zeros that its coefficient ends with. -/
def Decimal.reduced (d : Decimal) : Nat → Decimal
  | 0 => d
  | steps + 1 =>
    if d.coefficient % 10 = 0 ∧ d.coefficient ≠ 0 then
      Decimal.reduced ⟨d.coefficient / 10, d.exponent + 1⟩ steps
    else d

/-- The shortest decimal that rounds to a magnitude.  Seventeen digits always suffice. -/
def shortest (rank : Nat) : Decimal :=
  if rank = 0 then ⟨0, 0⟩
  else (((shortestFrom rank 1 17).getD ⟨0, 0⟩).reduced 17)

/-! ## Notation -/

/-- How a shortest decimal is written. -/
structure Notation where
  /-- The largest position of the point at which the decimal is written out. -/
  maxPoint : Int
  /-- The smallest such position. -/
  minPoint : Int
  /-- The least number of digits of an exponent. -/
  exponentDigits : Nat

/-- Numbers are written out from a ten-thousandth up to sixteen integer digits, and otherwise with
an exponent of a sign and at least two digits. -/
def Notation.general : Notation := ⟨16, -3, 2⟩

/-- An exponent with its sign and at least the given number of digits. -/
def exponentText (width : Nat) (e : Int) : List Char :=
  let digits := decimal e.natAbs
  'e' :: (if e < 0 then '-' else '+') :: List.replicate (width - digits.length) '0' ++ digits

/-- A decimal in the given notation.  What is written out has a digit on both sides of the
point. -/
def Decimal.text (style : Notation) (d : Decimal) : List Char :=
  let digits := decimal d.coefficient
  let point : Int := digits.length + d.exponent
  if d.coefficient = 0 then ['0', '.', '0']
  else if style.minPoint ≤ point ∧ point ≤ style.maxPoint then
    if point ≤ 0 then '0' :: '.' :: List.replicate (-point).toNat '0' ++ digits
    else if digits.length ≤ point.toNat then
      digits ++ List.replicate (point.toNat - digits.length) '0' ++ ['.', '0']
    else digits.take point.toNat ++ '.' :: digits.drop point.toNat
  else
    (match digits with
      | [] => []
      | [d] => [d]
      | d :: ds => d :: '.' :: ds) ++ exponentText style.exponentDigits (point - 1)

theorem Decimal.text_ne_nil (style : Notation) (d : Decimal) : d.text style ≠ [] := by
  unfold Decimal.text
  have h := decimal_ne_nil d.coefficient
  dsimp only
  split
  · simp
  · split
    · split
      · simp
      · split <;> simp
    · cases hd : decimal d.coefficient with
      | nil => exact absurd hd h
      | cons c cs => cases cs <;> simp

/-- The text before a magnitude. -/
def signText (negative : Bool) : List Char := if negative then ['-'] else []

/-- A double with the fewest digits that are read back as it. -/
def Double.text : Double → String
  | .finite negative rank =>
    String.ofList (signText negative ++ (shortest rank).text .general)
  | .infinite negative => String.ofList (signText negative ++ ['i', 'n', 'f'])
  | .nan => "nan"

/-- A double without a fraction of zero: an integral number is written as an integer, in all its
digits, and zero has no sign. -/
def Double.plainText : Double → String
  | .finite negative rank =>
    if Double.isIntegral rank then
      integerText (Double.withSign negative (Double.integerPart rank))
    else Double.text (.finite negative rank)
  | x => x.text

end SvgBuilder.Number
