/-!
# String literals of the builder

A string of the generated module stands between double quotes.  A backslash, a double quote, a
line feed, a carriage return and a tab are written as a backslash and one more character;
everything else stands for itself.  `read` is the other direction: it reads one literal and
returns its value and the text behind it.

## Main results

* `read_encode_append`: a written value is read back, and reading stops behind its closing quote.
-/

namespace SvgBuilder.Literal

/-- A character as it stands between the quotes. -/
def encodeChar (c : Char) : List Char :=
  if c = '\\' then ['\\', '\\']
  else if c = '\x22' then ['\\', '\x22']
  else if c = '\n' then ['\\', 'n']
  else if c = '\r' then ['\\', 'r']
  else if c = '\t' then ['\\', 't']
  else [c]

/-- What stands between the quotes. -/
def encode (s : List Char) : List Char := s.flatMap encodeChar

/-- The literal of a value. -/
def quote (s : String) : String :=
  String.ofList ('\x22' :: encode s.toList ++ ['\x22'])

/-- The character that an escape stands for. -/
def unescape? (c : Char) : Option Char :=
  if c = '\\' then some '\\'
  else if c = '\x22' then some '\x22'
  else if c = 'n' then some '\n'
  else if c = 'r' then some '\r'
  else if c = 't' then some '\t'
  else none

/-- Reads up to the closing quote.  A raw line feed or carriage return, an unknown escape and a
missing quote are refused. -/
def readBody : List Char → Option (List Char × List Char)
  | [] => none
  | '\\' :: s =>
    match s with
    | [] => none
    | e :: t =>
      match unescape? e with
      | none => none
      | some c => (readBody t).map fun (value, rest) => (c :: value, rest)
  | c :: s =>
    if c = '\x22' then some ([], s)
    else if c = '\n' ∨ c = '\r' then none
    else (readBody s).map fun (value, rest) => (c :: value, rest)

/-- Reads a literal: its value and the text behind it. -/
def read : List Char → Option (List Char × List Char)
  | [] => none
  | c :: s => if c = '\x22' then readBody s else none

theorem readBody_encodeChar_append (c : Char) (t : List Char) :
    readBody (encodeChar c ++ t) = (readBody t).map fun (value, rest) => (c :: value, rest) := by
  unfold encodeChar
  split
  · next h => subst h; simp [readBody, unescape?]
  · next h₀ =>
    split
    · next h => subst h; simp [readBody, unescape?]
    · next h₁ =>
      split
      · next h => subst h; simp [readBody, unescape?]
      · next h₂ =>
        split
        · next h => subst h; simp [readBody, unescape?]
        · next h₃ =>
          split
          · next h => subst h; simp [readBody, unescape?]
          · simp [readBody, h₁, h₂, h₃]

theorem readBody_encode_append (s t : List Char) :
    readBody (encode s ++ '\x22' :: t) = some (s, t) := by
  induction s with
  | nil => simp [encode, readBody]
  | cons c s ih =>
    have : encode (c :: s) ++ '\x22' :: t = encodeChar c ++ (encode s ++ '\x22' :: t) := by
      simp [encode]
    rw [this, readBody_encodeChar_append, ih]
    rfl

theorem read_encode_append (s t : List Char) :
    read ('\x22' :: encode s ++ '\x22' :: t) = some (s, t) := by
  simp [read, readBody_encode_append]

end SvgBuilder.Literal
