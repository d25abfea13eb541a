import SvgBuilder.Number.Reading
import SvgBuilder.Text.Case
import SvgBuilder.Yaml.Binary
import SvgBuilder.Yaml.Kind
import SvgBuilder.Yaml.Value

/-!
# The values of scalars

The text of a scalar is read as its kind wants it: numbers in several bases with underscores in
them, the words for truth values, points in time, bytes in groups of letters.

## Main definitions

* `scalarValue`: the value of a scalar of a kind.
-/

namespace SvgBuilder.Yaml

open SvgBuilder.Number SvgBuilder.Text

/-- The text of a number without underscores and in lower case. -/
def numberText (s : String) : List Char := s.toList.filter (· ≠ '_')

/-- Reads a sign and the text behind it; there has to be a character. -/
def signOf (s : List Char) : Except Fault (Bool × List Char) :=
  match s with
  | [] => .error .noCharacter
  | _ => .ok (readSign s)

/-- The value of a digit in any base up to thirty-six. -/
def anyDigit? (c : Char) : Option Nat :=
  (digitValue? c).orElse fun _ =>
    if 'a' ≤ c ∧ c ≤ 'z' then some (c.toNat - 87)
    else if 'A' ≤ c ∧ c ≤ 'Z' then some (c.toNat - 55)
    else none

/-- The text behind a marker of the base that may stand in front of digits. -/
def withoutBaseMark (base : Nat) (s : List Char) : List Char :=
  match s with
  | '0' :: c :: t =>
    if (base = 2 ∧ (c = 'b' ∨ c = 'B')) ∨ (base = 8 ∧ (c = 'o' ∨ c = 'O')) ∨
        (base = 16 ∧ (c = 'x' ∨ c = 'X')) then t
    else s
  | _ => s

/-- Reads an integer in a base that is a power of two. -/
def readInBase (base : Nat) (s : List Char) : Except Fault Int :=
  let (negative, digits) := readSign (withoutMargin s)
  match (withoutBaseMark base digits).mapM fun c => (anyDigit? c).filter (· < base) with
  | some (d :: ds) => .ok (Double.withSign negative (ofDigits base (d :: ds)))
  | _ => .error (.integer base (quoted (String.ofList s)))

/-- Reads an integer in decimal notation. -/
def readDecimal (s : List Char) : Except Fault Int :=
  match readInteger? s with
  | some i => .ok i
  | none =>
    match digitRun? false (readSign (withoutMargin s)).2 with
    | some digits => .error (.integerLength digits.length)
    | none => .error (.integer 10 (quoted (String.ofList s)))

/-- The number whose digits in base sixty are given. -/
def ofSixties (parts : List Int) : Int := parts.foldl (fun n d => n * 60 + d) 0

/-- Reads an integer. -/
def readIntegerText (s : String) : Except Fault Int := do
  let (negative, digits) ← signOf (numberText s)
  let magnitude ← match digits with
    | [] => throw .noCharacter
    | ['0'] => pure 0
    | '0' :: 'b' :: t => readInBase 2 t
    | '0' :: 'x' :: t => readInBase 16 t
    | '0' :: _ => readInBase 8 digits
    | _ =>
      if ':' ∈ digits then (ofSixties ·) <$> (splitAt ':' digits).mapM readDecimal
      else readDecimal digits
  pure (if negative then -magnitude else magnitude)

/-- Reads a number with a point as a part of another one. -/
def readFloatPart (s : List Char) : Except Fault Double :=
  match readDouble? s with
  | some x => .ok x
  | none => .error (.float (quoted (String.ofList s)))

/-- Adds numbers, each sixty times as heavy as the one before it, to a sum.  `weight` is that of the
first one; it must not lie beyond all numbers. -/
def weightedSum (weight : Nat) (sum : Double) : List Double → Except Fault Double
  | [] => .ok sum
  | x :: xs =>
    match Double.ofNat weight with
    | .finite negative rank =>
      weightedSum (weight * 60) (sum.add (x.mul (.finite negative rank))) xs
    | _ => .error .weight

/-- Reads a number with a point. -/
def readFloatText (s : String) : Except Fault Double := do
  let (negative, digits) ← signOf (lowercase (String.ofList (numberText s))).toList
  let magnitude ←
    if digits = ".inf".toList then pure (Double.infinite false)
    else if digits = ".nan".toList then pure Double.nan
    else if ':' ∈ digits then do
      let parts ← (splitAt ':' digits).mapM readFloatPart
      weightedSum 1 .zero parts.reverse
    else readFloatPart digits
  pure (if negative then magnitude.negate else magnitude)

/-- Reads a truth value. -/
def readTruth (s : String) : Except Fault Bool :=
  let word := lowercase s
  if word ∈ ["yes", "true", "on"] then .ok true
  else if word ∈ ["no", "false", "off"] then .ok false
  else .error (.truth word)

/-- Reads a timestamp. -/
def readTimestamp (s : String) : Except Fault Value :=
  match Timestamp.read? (withoutLineEnd s.toList) with
  | none => .error .timestamp
  | some t =>
    match t.fault? with
    | some f => .error f
    | none =>
      match t.clock with
      | none => .ok (.date t.date)
      | some clock => .ok (.moment t.date clock)

/-- The value of a number with a point that is read from a node.  What is no number is the same
key wherever it is written as such, and else only in the node it stands in. -/
def floatValue (number : Nat) (s : String) (x : Double) : Value :=
  let written := (readSign (lowercase (String.ofList (numberText s))).toList).2
  if x ≠ .nan then .float x
  else if written = ".nan".toList then .nan none
  else .nan (some number)

/-- The value of a scalar that is the node of a number. -/
def scalarValue (kind : Kind) (number : Nat) (s : String) : Except Fault Value :=
  match kind with
  | .null => .ok .null
  | .truth => (readTruth s).map .truth
  | .integer => (readIntegerText s).map .integer
  | .float => (readFloatText s).map (floatValue number s)
  | .text => .ok (.text s)
  | .timestamp => readTimestamp s
  | .binary =>
    match decodeBinary? s.toList with
    | some bytes => .ok (.bytes bytes)
    | none => .error .malformed
  | _ => .error .malformed

/-- The code points of a number without underscores and sign. -/
def numberCodes (codes : List Nat) : List Nat :=
  match codes.filter (· ≠ '_'.toNat) with
  | c :: rest => if c = '-'.toNat ∨ c = '+'.toNat then rest else c :: rest
  | [] => []

/-- The value of a scalar of code points of which some are no characters. -/
def codesValue (kind : Kind) (codes : List Nat) : Except Fault Value :=
  match kind with
  | .null => .ok .null
  | .text => .ok (.codes codes)
  | .truth => .error (.truth (String.ofList (codes.map Char.ofNat)))
  | .integer => .error (.integer 10 (quotedCodes (numberCodes codes)))
  | .float => .error (.float (quotedCodes (numberCodes codes)))
  | .timestamp => .error .timestamp
  | _ => .error .malformed

end SvgBuilder.Yaml
