import SvgBuilder.Number.Digits
import SvgBuilder.Text.Quoted

/-!
# Why a text holds no value

A text may break the rules of the language.  A text that keeps them may still hold a scalar that
is no value of its kind, such as a date without its month.
-/

namespace SvgBuilder.Yaml

open SvgBuilder.Number SvgBuilder.Text

/-- What is wrong with a text. -/
inductive Fault where
  /-- The rules of the language are broken. -/
  | malformed
  /-- An escape of a code point that there is not. -/
  | codePoint
  /-- An escape of a code point beyond all machine integers. -/
  | codeOverflow
  /-- Nodes that are nested too deeply, or without end. -/
  | recursion
  /-- A text that is no integer in a base, as it is shown. -/
  | integer (base : Nat) (shown : String)
  /-- An integer of too many digits. -/
  | integerLength (digits : Nat)
  /-- A text that is no number, as it is shown. -/
  | float (shown : String)
  /-- A weight of digits beyond all numbers. -/
  | weight
  /-- A text that is no truth value. -/
  | truth (text : String)
  /-- A number without any character. -/
  | noCharacter
  /-- A text that is no point in time. -/
  | timestamp
  /-- A mapping that should be a point in time. -/
  | timestampMapping
  | year (year : Nat)
  | month
  | day
  | hour
  | minute
  | second
  /-- A distance to universal time of a day or more, in seconds. -/
  | offset (seconds : Int)
  deriving DecidableEq, Repr

/-- A length of time in whole days and the remaining seconds. -/
def durationText (seconds : Int) : String :=
  let days := seconds / 86400
  let rest := seconds % 86400
  let parts := (if days = 0 then [] else ["days=" ++ integerText days]) ++
    if rest = 0 then [] else ["seconds=" ++ integerText rest]
  "datetime.timedelta(" ++ (if parts.isEmpty then "0" else String.intercalate ", " parts) ++ ")"

/-- What is wrong, in words. -/
def Fault.message : Fault → String
  | .malformed => "YAMLError"
  | .codePoint => "chr() arg not in range(0x110000)"
  | .codeOverflow => "Python int too large to convert to C int"
  | .recursion => "maximum recursion depth exceeded"
  | .integer base shown =>
    "invalid literal for int() with base " ++ integerText base ++ ": " ++
      String.ofList (shown.toList.take 200)
  | .integerLength digits =>
    "Exceeds the limit (4300 digits) for integer string conversion: value has " ++
      integerText digits ++ " digits; use sys.set_int_max_str_digits() to increase the limit"
  | .float shown => "could not convert string to float: " ++ shown
  | .weight => "int too large to convert to float"
  | .truth text => quoted text
  | .noCharacter => "string index out of range"
  | .timestamp => "'NoneType' object has no attribute 'groupdict'"
  | .timestampMapping => "expected string or bytes-like object, got 'list'"
  | .year n => "year " ++ integerText n ++ " is out of range"
  | .month => "month must be in 1..12"
  | .day => "day is out of range for month"
  | .hour => "hour must be in 0..23"
  | .minute => "minute must be in 0..59"
  | .second => "second must be in 0..59"
  | .offset seconds =>
    "offset must be a timedelta strictly between -timedelta(hours=24) and timedelta(hours=24), " ++
      "not " ++ durationText seconds ++ "."

end SvgBuilder.Yaml
