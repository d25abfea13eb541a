import SvgBuilder.Text.Printable

/-!
# Text in quotes

`quoted` shows a text on one line: between single quotes, or between double quotes if it holds a
single and no double one, with escapes for the quote, the backslash and all that is not
printable.  Messages show file names and settings this way.
-/

namespace SvgBuilder.Text

/-- A hexadecimal digit in lower case. -/
def hexDigit (n : Nat) : Char :=
  if n < 10 then Char.ofNat (48 + n) else Char.ofNat (87 + n)

/-- The last `width` hexadecimal digits of a number. -/
def hexDigits : Nat → Nat → List Char
  | 0, _ => []
  | width + 1, n => hexDigits width (n / 16) ++ [hexDigit (n % 16)]

/-- A code point as an escape of two, four or eight hexadecimal digits. -/
def codeEscape (n : Nat) : List Char :=
  if n < 0x100 then '\\' :: 'x' :: hexDigits 2 n
  else if n < 0x10000 then '\\' :: 'u' :: hexDigits 4 n
  else '\\' :: 'U' :: hexDigits 8 n

/-- The quote that a text is shown between. -/
def quoteFor (s : List Char) : Char :=
  if '\x27' ∈ s ∧ '\x22' ∉ s then '\x22' else '\x27'

/-- A character as it is shown between the given quotes. -/
def shownChar (quote c : Char) : List Char :=
  if c = quote ∨ c = '\\' then ['\\', c]
  else if c = '\n' then ['\\', 'n']
  else if c = '\r' then ['\\', 'r']
  else if c = '\t' then ['\\', 't']
  else if isPrintable c then [c]
  else codeEscape c.toNat

/-- A code point as it is shown between the given quotes; it need not be a character. -/
def shownCode (quote : Char) (code : Nat) : List Char :=
  if code.isValidChar then shownChar quote (Char.ofNat code) else codeEscape code

/-- Code points shown in quotes. -/
def quotedCodes (codes : List Nat) : String :=
  let quote := quoteFor ((codes.filter (·.isValidChar)).map Char.ofNat)
  String.ofList (quote :: codes.flatMap (shownCode quote) ++ [quote])

/-- A text shown in quotes. -/
def quoted (s : String) : String :=
  let quote := quoteFor s.toList
  String.ofList (quote :: s.toList.flatMap (shownChar quote) ++ [quote])

end SvgBuilder.Text
