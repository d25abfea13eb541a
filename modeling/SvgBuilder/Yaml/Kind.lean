import SvgBuilder.Text.LineEnd
import SvgBuilder.Text.Search

/-!
# Kinds of nodes

Every node has a kind, which says what its value is.  A tag names it; a plain scalar without a tag
has the kind that its text looks like.  The notations of numbers are those of the first version of
the language: integers in the bases two, eight, ten, sixteen and sixty, underscores between digits,
and exponents only behind a point and with a sign.

## Main definitions

* `Kind.ofTag`: the kind that a tag names.
* `looksInteger`, `looksFloat`: what the text of a plain scalar looks like.
-/

namespace SvgBuilder.Yaml

open SvgBuilder.Text

/-- The kinds of nodes. -/
inductive Kind where
  | null
  | truth
  | integer
  | float
  | binary
  | timestamp
  /-- A list of keys with values. -/
  | orderedMap
  /-- A list of pairs. -/
  | pairs
  | set
  | text
  | sequence
  | mapping
  /-- A key whose value is merged into the mapping. -/
  | merge
  /-- A key whose value stands for the whole mapping where a scalar is wanted. -/
  | standing
  /-- A tag that nothing is known of. -/
  | unknown
  deriving DecidableEq, Repr

/-- What the tags of the language begin with. -/
def languageTags : String := "tag:yaml.org,2002:"

/-- The kinds by the endings of their tags. -/
def kindTags : List (String × Kind) := [
  ("null", .null), ("bool", .truth), ("int", .integer), ("float", .float), ("binary", .binary),
  ("timestamp", .timestamp), ("omap", .orderedMap), ("pairs", .pairs), ("set", .set),
  ("str", .text), ("seq", .sequence), ("map", .mapping), ("merge", .merge),
  ("value", .standing)]

/-- The kind that a tag names. -/
def Kind.ofTag (tag : String) : Kind :=
  match behind? languageTags tag.toList with
  | some ending => (kindTags.lookup (String.ofList ending)).getD .unknown
  | none => .unknown

/-! ## What the text of a scalar looks like

A line break at the end of the text does not count. -/

/-- A digit or an underscore. -/
def isDigitMark (c : Char) : Bool := c.isDigit || c = '_'

/-- The text without a sign in front. -/
def withoutSign : List Char → List Char
  | '-' :: s => s
  | '+' :: s => s
  | s => s

/-- Whether a text is nothing or an exponent: its letter, a sign and digits. -/
def isExponent : List Char → Bool
  | [] => true
  | e :: sign :: d :: s =>
    (e = 'e' || e = 'E') && (sign = '-' || sign = '+') && d.isDigit && s.all (·.isDigit)
  | _ => false

/-- Digits behind a point, and an optional exponent. -/
def isFraction (s : List Char) : Bool := isExponent (s.dropWhile isDigitMark)

/-- Groups of one or two digits, each behind a colon, and then the given ending. -/
def isSixties (ending : List Char → Bool) : List Char → Bool
  | ':' :: a :: b :: s =>
    if b.isDigit then '0' ≤ a && a ≤ '5' && (isSixties ending s || ending s)
    else a.isDigit && (isSixties ending (b :: s) || ending (b :: s))
  | [':', a] => a.isDigit && ending []
  | _ => false

/-- A point and digits with underscores. -/
def isPlainFraction : List Char → Bool
  | '.' :: s => s.all isDigitMark
  | _ => false

/-- Whether a text without a sign is a number with a point. -/
def isUnsignedFloat : List Char → Bool
  | [] => false
  | c :: s =>
    c.isDigit &&
      match s.dropWhile isDigitMark with
      | '.' :: t => isFraction t
      | t => isSixties isPlainFraction t

/-- Whether a text looks like a number with a point. -/
def looksFloat (s : List Char) : Bool :=
  isUnsignedFloat (withoutSign s) ||
    (match s with
      | '.' :: d :: t => d.isDigit && isFraction t
      | _ => false) ||
    String.ofList (withoutSign s) ∈ [".inf", ".Inf", ".INF"] ||
    String.ofList s ∈ [".nan", ".NaN", ".NAN"]

/-- A binary digit or an underscore. -/
def isBinaryMark (c : Char) : Bool := c = '0' || c = '1' || c = '_'

/-- An octal digit or an underscore. -/
def isOctalMark (c : Char) : Bool := ('0' ≤ c && c ≤ '7') || c = '_'

/-- A hexadecimal digit or an underscore. -/
def isHexMark (c : Char) : Bool :=
  isDigitMark c || ('a' ≤ c && c ≤ 'f') || ('A' ≤ c && c ≤ 'F')

/-- Whether a text without a sign looks like an integer. -/
def isUnsignedInteger : List Char → Bool
  | ['0'] => true
  | '0' :: 'b' :: s => !s.isEmpty && s.all isBinaryMark
  | '0' :: 'x' :: s => !s.isEmpty && s.all isHexMark
  | '0' :: s => s.all isOctalMark
  | c :: s =>
    c.isDigit &&
      match s.dropWhile isDigitMark with
      | [] => true
      | t => isSixties List.isEmpty t
  | [] => false

/-- Whether a text looks like an integer. -/
def looksInteger (s : List Char) : Bool := isUnsignedInteger (withoutSign s)

/-- Takes the given numbers of digits, the smaller ones for a part that may be shorter. -/
def digits? (least most : Nat) (s : List Char) : Option (List Char × List Char) :=
  let run := (s.take most).takeWhile (·.isDigit)
  if least ≤ run.length then some (run, s.drop run.length) else none

/-- The words for truth values. -/
def truthWords : List String := [
  "yes", "Yes", "YES", "no", "No", "NO", "true", "True", "TRUE", "false", "False", "FALSE",
  "on", "On", "ON", "off", "Off", "OFF"]

/-- The words for no value. -/
def nullWords : List String := ["~", "null", "Null", "NULL"]

end SvgBuilder.Yaml
