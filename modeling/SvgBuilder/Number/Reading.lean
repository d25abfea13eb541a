import SvgBuilder.Number.Digits
import SvgBuilder.Number.Double
import SvgBuilder.Text.Blank
import SvgBuilder.Text.Digit

/-!
# Reading numbers

The notations that are read as a number.  An integer is a run of digits after an optional sign.
A double is a decimal with an optional point and an optional exponent, or the name of an infinity
or of not-a-number in any letter case.  Both may stand between blanks, may use the decimal digits
of any script, and may have single underscores between their digits.

## Main results

* `readDouble?_nil`: the empty text is no number.
-/

namespace SvgBuilder.Number

open SvgBuilder.Text

/-- The characters that a number may stand between: of ASCII only the space and the controls from
tab to carriage return. -/
def isMargin (c : Char) : Bool :=
  if c.toNat < 127 then c = ' ' || (9 ≤ c.toNat && c.toNat ≤ 13) else isBlank c

/-- The text without the margin at both ends. -/
def withoutMargin (s : List Char) : List Char :=
  ((s.dropWhile isMargin).reverse.dropWhile isMargin).reverse

/-- The longest run of digits that is read as an integer. -/
def maxIntegerDigits : Nat := 4300

/-- The values of digits separated by at most one underscore each.  `after` says whether the
character before was a digit. -/
def digitRun? (after : Bool) : List Char → Option (List Nat)
  | [] => if after then some [] else none
  | c :: s =>
    if c = '_' then if after then digitRun? false s else none
    else
      match digitValue? c with
      | some d => (digitRun? true s).map (d :: ·)
      | none => none

/-- The sign that a number begins with, and the rest. -/
def readSign : List Char → Bool × List Char
  | '-' :: s => (true, s)
  | '+' :: s => (false, s)
  | s => (false, s)

/-- Reads an integer in decimal notation. -/
def readInteger? (s : List Char) : Option Int :=
  let (negative, digits) := readSign (withoutMargin s)
  match digitRun? false digits with
  | some values =>
    if values.length ≤ maxIntegerDigits then
      some (Double.withSign negative (ofDigits 10 values))
    else none
  | none => none

/-! ## Doubles -/

/-- A character with a decimal digit of another script replaced by the ASCII one. -/
def plainDigit (c : Char) : Char :=
  match digitValue? c with
  | some d => Char.ofNat (48 + d)
  | none => c

/-- The text without underscores, each of which must stand between two digits.  `after` says
whether the character before was a digit. -/
def dropUnderscores? (after : Bool) : List Char → Option (List Char)
  | [] => some []
  | c :: s =>
    if c = '_' then
      if after && (s.head?.bind asciiDigit?).isSome then dropUnderscores? false s else none
    else (dropUnderscores? (asciiDigit? c).isSome s).map (c :: ·)

/-- The values of the ASCII digits that a text begins with, and the rest. -/
def spanDigits : List Char → List Nat × List Char
  | [] => ([], [])
  | c :: s =>
    match asciiDigit? c with
    | some d => (d :: (spanDigits s).1, (spanDigits s).2)
    | none => ([], c :: s)

/-- Reads an exponent, if there is one. -/
def readExponent? : List Char → Option Int
  | [] => some 0
  | c :: s =>
    if c = 'e' ∨ c = 'E' then
      let (negative, digits) := readSign s
      match spanDigits digits with
      | ([], _) => none
      | (ds, []) => some (Double.withSign negative (ofDigits 10 ds))
      | _ => none
    else none

/-- Reads a magnitude in decimal notation. -/
def readMagnitude? (negative : Bool) (s : List Char) : Option Double :=
  let (whole, s) := spanDigits s
  let (part, s) :=
    match s with
    | '.' :: t => spanDigits t
    | _ => ([], s)
  if whole.isEmpty && part.isEmpty then none
  else
    let digits := whole ++ part
    (readExponent? s).map fun exponent =>
      Double.ofDecimal negative (ofDigits 10 digits) (digits.dropWhile (· = 0)).length
        (exponent - part.length)

/-- The infinities and not-a-number by name. -/
def namedDouble? (negative : Bool) (s : List Char) : Option Double :=
  let name := String.ofList (s.map Char.toLower)
  if name = "inf" ∨ name = "infinity" then some (.infinite negative)
  else if name = "nan" then some .nan
  else none

/-- Reads a double. -/
def readDouble? (s : List Char) : Option Double :=
  (dropUnderscores? false ((withoutMargin s).map plainDigit)).bind fun plain =>
    let (negative, magnitude) := readSign plain
    (namedDouble? negative magnitude).orElse fun _ => readMagnitude? negative magnitude

theorem readDouble?_nil : readDouble? [] = none := by decide

end SvgBuilder.Number
