/-!
# Digits of a natural number

The number of digits, and the digits as characters, in base ten.  Integers are written up to a
number of digits.

## Main results

* `decimal_ne_nil`: every number has a digit.
-/

namespace SvgBuilder.Number

/-- The decimal digits of a number, the last one first. -/
def digitsRev (n : Nat) : List Char :=
  if n < 10 then [Char.ofNat (48 + n)]
  else Char.ofNat (48 + n % 10) :: digitsRev (n / 10)

/-- The decimal digits of a number. -/
def decimal (n : Nat) : List Char := (digitsRev n).reverse

/-- The number of decimal digits. -/
def digitCount (n : Nat) : Nat := if n < 10 then 1 else digitCount (n / 10) + 1

/-- An integer in decimal notation. -/
def integerText (i : Int) : String :=
  match i with
  | .ofNat n => String.ofList (decimal n)
  | .negSucc n => String.ofList ('-' :: decimal (n + 1))

/-- The most digits that an integer is written with. -/
def maxWrittenDigits : Nat := 4300

/-- An integer in decimal notation, unless it has too many digits to be written. -/
def writtenInteger? (i : Int) : Option String :=
  if maxWrittenDigits < (decimal i.natAbs).length then none else some (integerText i)

/-- Why an integer is not written, in words. -/
def unwrittenMessage : String :=
  "Exceeds the limit (4300 digits) for integer string conversion; " ++
    "use sys.set_int_max_str_digits() to increase the limit"

/-- The number that a list of digit values stands for. -/
def ofDigits (base : Nat) (digits : List Nat) : Nat :=
  digits.foldl (fun n d => n * base + d) 0

theorem digitsRev_ne_nil (n : Nat) : digitsRev n ≠ [] := by
  unfold digitsRev
  split <;> simp

theorem decimal_ne_nil (n : Nat) : decimal n ≠ [] := by
  simp [decimal, digitsRev_ne_nil]

end SvgBuilder.Number
