import SvgBuilder.Number.Double
import SvgBuilder.Yaml.Kind
import SvgBuilder.Yaml.Fault

/-!
# Dates and points in time

A timestamp is a date, and possibly a time of day behind it with an optional fraction of a second
and an optional distance to universal time.

## Main definitions

* `Timestamp.read?`, `Timestamp.fault?`: reading a timestamp, and what is wrong with its date or
  time.
-/

namespace SvgBuilder.Yaml

open SvgBuilder.Number

/-- A day of the calendar. -/
structure Date where
  year : Nat
  month : Nat
  day : Nat
  deriving DecidableEq, Repr

/-- A time of day. -/
structure Clock where
  hour : Nat
  minute : Nat
  second : Nat
  microsecond : Nat
  /-- The distance to universal time in seconds, if there is one. -/
  offset : Option Int
  deriving DecidableEq, Repr

/-- The number that digits stand for. -/
def ofDigitChars (s : List Char) : Nat := ofDigits 10 (s.map fun c => c.toNat - 48)

/-! ## Reading -/

/-- Reads a number of one or two digits behind a mark. -/
def readPart? (mark : Char) (least : Nat) : List Char → Option (List Char × List Char)
  | c :: s => if c = mark then digits? least 2 s else none
  | [] => none

/-- Reads what stands between a date and a time: one letter or blanks. -/
def readTimeMark? : List Char → Option (List Char)
  | c :: s =>
    if c = 'T' ∨ c = 't' then some s
    else if c = ' ' ∨ c = '\t' then some (s.dropWhile fun c => c = ' ' || c = '\t')
    else none
  | [] => none

/-- The microseconds of the digits of a fraction; further digits do not count. -/
def microseconds (digits : List Char) : Nat :=
  ofDigitChars ((digits ++ List.replicate 6 '0').take 6)

/-- Reads the distance to universal time. -/
def readOffset? (s : List Char) : Option (Option Int) :=
  if s.isEmpty then some none
  else
    match s.dropWhile fun c => c = ' ' || c = '\t' with
    | ['Z'] => some (some 0)
    | sign :: t =>
      if sign = '+' ∨ sign = '-' then
        match digits? 1 2 t with
        | none => none
        | some (hours, t) =>
          let seconds (minutes : List Char) : Int :=
            Double.withSign (sign = '-') (3600 * ofDigitChars hours + 60 * ofDigitChars minutes)
          if t.isEmpty then some (some (seconds []))
          else
            match readPart? ':' 2 t with
            | some (minutes, []) => some (some (seconds minutes))
            | _ => none
      else none
    | [] => none

/-- Reads a time of day. -/
def readClock? (s : List Char) : Option Clock := do
  let (hour, s) ← digits? 1 2 s
  let (minute, s) ← readPart? ':' 2 s
  let (second, s) ← readPart? ':' 2 s
  let (fraction, s) := match s with
    | '.' :: t => (t.takeWhile (·.isDigit), t.dropWhile (·.isDigit))
    | _ => ([], s)
  let offset ← readOffset? s
  pure ⟨ofDigitChars hour, ofDigitChars minute, ofDigitChars second, microseconds fraction, offset⟩

/-- A timestamp as it is written. -/
structure Timestamp where
  date : Date
  clock : Option Clock
  /-- Whether the month and the day have two digits each. -/
  full : Bool

/-- Reads a timestamp. -/
def Timestamp.read? (s : List Char) : Option Timestamp := do
  let (year, s) ← digits? 4 4 s
  let (month, s) ← readPart? '-' 1 s
  let (day, s) ← readPart? '-' 1 s
  let date : Date := ⟨ofDigitChars year, ofDigitChars month, ofDigitChars day⟩
  let full := month.length = 2 && day.length = 2
  if s.isEmpty then pure ⟨date, none, full⟩
  else
    let clock ← (readTimeMark? s).bind readClock?
    pure ⟨date, some clock, full⟩

/-- Whether a text looks like a timestamp.  A date alone has to be written in full. -/
def looksTimestamp (s : List Char) : Bool :=
  (Timestamp.read? s).any fun t => t.full || t.clock.isSome

/-! ## The calendar -/

/-- Whether a year has a day more. -/
def isLeapYear (year : Nat) : Bool := year % 4 = 0 && (year % 100 ≠ 0 || year % 400 = 0)

/-- The number of days of a month. -/
def daysIn (year month : Nat) : Nat :=
  if month = 2 then if isLeapYear year then 29 else 28
  else if month ∈ [4, 6, 9, 11] then 30
  else 31

/-- What is wrong with a date. -/
def Date.fault? (d : Date) : Option Fault :=
  if d.year = 0 then some (.year d.year)
  else if d.month = 0 ∨ 12 < d.month then some .month
  else if d.day = 0 ∨ daysIn d.year d.month < d.day then some .day
  else none

/-- What is wrong with a time of day. -/
def Clock.fault? (t : Clock) : Option Fault :=
  if 23 < t.hour then some .hour
  else if 59 < t.minute then some .minute
  else if 59 < t.second then some .second
  else none

/-- What is wrong with the distance to universal time. -/
def Clock.offsetFault? (t : Clock) : Option Fault :=
  t.offset.bind fun seconds => if seconds.natAbs < 86400 then none else some (.offset seconds)

/-- What is wrong with a timestamp. -/
def Timestamp.fault? (t : Timestamp) : Option Fault :=
  (t.clock.bind Clock.offsetFault?).orElse fun _ =>
    t.date.fault?.orElse fun _ => t.clock.bind Clock.fault?

/-! ## Text -/

/-- A number with at least the given count of digits. -/
def padded (width n : Nat) : String :=
  let digits := decimal n
  String.ofList (List.replicate (width - digits.length) '0' ++ digits)

/-- The text of a date. -/
def Date.text (d : Date) : String :=
  padded 4 d.year ++ "-" ++ padded 2 d.month ++ "-" ++ padded 2 d.day

/-- The text of a distance to universal time. -/
def offsetText (seconds : Int) : String :=
  (if seconds < 0 then "-" else "+") ++ padded 2 (seconds.natAbs / 3600) ++ ":" ++
    padded 2 (seconds.natAbs / 60 % 60)

/-- The text of a time of day. -/
def Clock.text (t : Clock) : String :=
  padded 2 t.hour ++ ":" ++ padded 2 t.minute ++ ":" ++ padded 2 t.second ++
    (if t.microsecond = 0 then "" else "." ++ padded 6 t.microsecond) ++
    (t.offset.map offsetText).getD ""

/-- The arguments that a date is shown with. -/
def Date.arguments (d : Date) : List Nat := [d.year, d.month, d.day]

/-- The arguments that a time of day is shown with: zeros at the end are left out. -/
def Clock.arguments (t : Clock) : List Nat :=
  if t.microsecond ≠ 0 then [t.hour, t.minute, t.second, t.microsecond]
  else if t.second ≠ 0 then [t.hour, t.minute, t.second]
  else [t.hour, t.minute]

/-- Numbers with commas between them. -/
def listed (ns : List Nat) : String := String.intercalate ", " (ns.map fun n => padded 1 n)

/-- A date as it is shown in messages. -/
def Date.shown (d : Date) : String := "datetime.date(" ++ listed d.arguments ++ ")"

/-- A distance to universal time as it is shown in messages. -/
def offsetShown (seconds : Int) : String :=
  if seconds = 0 then "datetime.timezone.utc"
  else "datetime.timezone(" ++ durationText seconds ++ ")"

/-- A point in time as it is shown in messages. -/
def momentShown (d : Date) (t : Clock) : String :=
  "datetime.datetime(" ++ listed (d.arguments ++ t.arguments) ++
    ((t.offset.map fun seconds => ", tzinfo=" ++ offsetShown seconds).getD "") ++ ")"

end SvgBuilder.Yaml
