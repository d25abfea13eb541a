import SvgBuilder.Yaml.Fault

/-!
# Positions in a text

A cursor is the text that is left together with the place where it begins: how many characters,
lines and columns lie before it.  A byte order mark takes no column.

## Main definitions

* `Cursor.advance`, `Cursor.span`: passing over characters.
-/

namespace SvgBuilder.Yaml

/-- The characters that end a line. -/
def isBreak (c : Char) : Bool := c = '\n' || c = '\x85' || c = '\u2028' || c = '\u2029'

/-- Spaces and tabs. -/
def isBlank (c : Char) : Bool := c = ' ' || c = '\t'

/-- The end of the text or of a line. -/
def endsLine (c : Option Char) : Bool := c.all isBreak

/-- The end of the text or of a line, or a space. -/
def endsWord (c : Option Char) : Bool := c.all fun c => isBreak c || c = ' '

/-- The end of the text or of a line, a space or a tab. -/
def endsToken (c : Option Char) : Bool := c.all fun c => isBreak c || isBlank c

/-- The characters that a text may hold. -/
def isAllowed (c : Char) : Bool :=
  let n := c.toNat
  n = 9 || n = 10 || n = 13 || (0x20 ≤ n && n ≤ 0x7E) || n = 0x85 || (0xA0 ≤ n && n ≤ 0xD7FF) ||
    (0xE000 ≤ n && n ≤ 0xFFFD) || 0x10000 ≤ n

/-- The mark that a text may begin with. -/
def byteOrderMark : Char := '\uFEFF'

/-- The text that is left and its place. -/
structure Cursor where
  rest : List Char
  /-- The number of characters of the whole text, which bounds what may be left. -/
  size : Nat
  index : Nat
  line : Nat
  column : Nat

namespace Cursor

/-- The beginning of a text. -/
def start (s : List Char) : Cursor := ⟨s, s.length, 0, 0, 0⟩

/-- The cursor behind the next character. -/
def pass (c : Cursor) : Cursor :=
  match c.rest with
  | [] => c
  | d :: s =>
    if isBreak d then ⟨s, c.size, c.index + 1, c.line + 1, 0⟩
    else ⟨s, c.size, c.index + 1, c.line, if d = byteOrderMark then c.column else c.column + 1⟩

/-- The cursor behind the next characters. -/
def advance : Nat → Cursor → Cursor
  | 0, c => c
  | n + 1, c => advance n c.pass

/-- The character some places ahead. -/
def peek (c : Cursor) (n : Nat) : Option Char := c.rest[n]?

/-- The next characters for which a test holds, and the cursor behind them. -/
def span (test : Char → Bool) (c : Cursor) : List Char × Cursor :=
  let taken := c.rest.takeWhile test
  (taken, c.advance taken.length)

/-- The cursor behind the next spaces. -/
def skipSpaces (c : Cursor) : Cursor := (c.span (· = ' ')).2

/-- The cursor at the end of a comment that may begin here. -/
def skipComment (c : Cursor) : Cursor :=
  if c.peek 0 = some '#' then (c.span (!isBreak ·)).2 else c

/-- The line break that stands here as it counts in a scalar, and the cursor behind it. -/
def lineBreak? (c : Cursor) : Option (Char × Cursor) :=
  match c.peek 0 with
  | some d =>
    if isBreak d then some (if d = '\x85' then '\n' else d, c.pass) else none
  | none => none

/-- Whether a mark of three characters that separates documents stands here. -/
def atSeparator (c : Cursor) : Bool :=
  match c.rest with
  | '-' :: '-' :: '-' :: s => endsToken s.head?
  | '.' :: '.' :: '.' :: s => endsToken s.head?
  | _ => false

end Cursor

/-- The breaks of a scalar that is folded: a single line feed becomes a space, and of several the
first one is dropped. -/
def foldedBreaks (first : Char) (more : List Char) : List Char :=
  if first ≠ '\n' then first :: more else if more.isEmpty then [' '] else more

end SvgBuilder.Yaml
