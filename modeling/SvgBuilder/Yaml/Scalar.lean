import SvgBuilder.Yaml.Cursor

/-!
# Plain and quoted scalars

A plain scalar is a run of text without quotes.  It ends before a comment, before a colon with a
blank behind it, and inside brackets before the marks that structure them.  It may go on in the
following lines, as a quoted scalar may, and their breaks are folded.  Inside double quotes a
backslash begins an escape, and inside single quotes a quote is written twice.

## Main results

* `ScalarText.ofCodes_codesOf`: the code points of a text make up that text.
-/

namespace SvgBuilder.Yaml

/-- The text of a scalar.  Escapes can put code points into it that are no characters. -/
inductive ScalarText where
  | text (s : String)
  | codes (codes : List Nat)
  deriving DecidableEq, Repr

/-! ## Plain scalars -/

/-- What stands between two runs of a plain scalar. -/
structure Gap where
  /-- The text that stands for it. -/
  text : List Char
  /-- Whether there is a line break in it. -/
  broken : Bool
  /-- Whether the scalar ends before it. -/
  last : Bool

/-- Whether a colon with the given character behind it ends a plain scalar. -/
def colonEnds (flow : Bool) (next : Option Char) : Bool :=
  endsToken next || (flow && next.any (· ∈ [',', '[', ']', '\x7b', '\x7d']))

/-- Whether a character ends a plain scalar inside brackets. -/
def isFlowMark (c : Char) : Bool := c ∈ [',', '?', '[', ']', '\x7b', '\x7d']

/-- The run of a plain scalar that a text begins with. -/
def plainRun (flow : Bool) : List Char → List Char
  | [] => []
  | c :: s =>
    if endsToken (some c) || (c = ':' && colonEnds flow s.head?) || (flow && isFlowMark c) then []
    else c :: plainRun flow s

/-- The line breaks and spaces here: the breaks, or nothing if a separator of documents stands at
the beginning of a line.  `steps` bounds their number. -/
def plainBreaks : Nat → Cursor → Option (List Char) × Cursor
  | 0, c => (none, c)
  | steps + 1, c =>
    if c.atSeparator then (none, c)
    else
      let c := c.skipSpaces
      match c.lineBreak? with
      | none => (some [], c)
      | some (b, c) =>
        let (more, c) := plainBreaks steps c
        (more.map (b :: ·), c)

/-- Reads what stands between two runs of a plain scalar. -/
def readGap (c : Cursor) : Gap × Cursor :=
  let (spaces, c) := c.span (· = ' ')
  match c.lineBreak? with
  | none => (⟨spaces, false, spaces.isEmpty⟩, c)
  | some (b, c) =>
    match plainBreaks (c.size + 1) c with
    | (some more, c) => (⟨foldedBreaks b more, true, false⟩, c)
    | (none, c) => (⟨[], true, true⟩, c)

/-- Reads a plain scalar: its text, whether it ends behind a line break, and the cursor behind it.
`indent` is the least column of its further lines. -/
def readPlain (flow : Bool) (indent : Int) : Nat → Cursor → (List Char × Bool) × Cursor
  | 0, c => (([], false), c)
  | steps + 1, c =>
    let run := if c.peek 0 = some '#' then [] else plainRun flow c.rest
    if run.isEmpty then (([], false), c)
    else
      let (gap, c) := readGap (c.advance run.length)
      if gap.last || c.peek 0 = some '#' || (!flow && decide ((c.column : Int) < indent)) then
        ((run, gap.broken), c)
      else
        match readPlain flow indent steps c with
        | (([], _), c) => ((run, gap.broken), c)
        | ((more, broken), c) => ((run ++ gap.text ++ more, broken), c)

/-! ## Quoted scalars -/

/-- The characters that a backslash and one more character stand for. -/
def escapes : List (Char × Char) := [
  ('0', '\x00'), ('a', '\x07'), ('b', '\x08'), ('t', '\t'), ('\t', '\t'), ('n', '\n'),
  ('v', '\x0b'), ('f', '\x0c'), ('r', '\r'), ('e', '\x1b'), (' ', ' '), ('\x22', '\x22'),
  ('\\', '\\'), ('/', '/'), ('N', '\x85'), ('_', '\xa0'), ('L', '\u2028'), ('P', '\u2029')]

/-- The escapes that are followed by a number of hexadecimal digits. -/
def codeEscapes : List (Char × Nat) := [('x', 2), ('u', 4), ('U', 8)]

/-- The value of a hexadecimal digit. -/
def hexValue? (c : Char) : Option Nat :=
  if '0' ≤ c ∧ c ≤ '9' then some (c.toNat - 48)
  else if 'a' ≤ c ∧ c ≤ 'f' then some (c.toNat - 87)
  else if 'A' ≤ c ∧ c ≤ 'F' then some (c.toNat - 55)
  else none

/-- The number that a text begins with, of the given number of hexadecimal digits. -/
def hexNumber? (width : Nat) (s : List Char) : Option Nat :=
  match (s.take width).mapM hexValue? with
  | some digits => if digits.length < width then none else some (Number.ofDigits 16 digits)
  | none => none

/-- The code point that is written with the given number of digits. -/
def readCode (width : Nat) (s : List Char) : Except Fault Nat :=
  match hexNumber? width s with
  | none => .error .malformed
  | some code =>
    if 0x7FFFFFFF < code then .error .codeOverflow
    else if 0x10FFFF < code then .error .codePoint
    else .ok code

/-- The line breaks of a quoted scalar behind the first one, blanks around them passed over. -/
def quotedBreaks : Nat → Cursor → Except Fault (List Char × Cursor)
  | 0, _ => .error .malformed
  | steps + 1, c =>
    if c.atSeparator then .error .malformed
    else
      let c := (c.span isBlank).2
      match c.lineBreak? with
      | none => .ok ([], c)
      | some (b, c) => do
        let (more, c) ← quotedBreaks steps c
        pure (b :: more, c)

/-- The code points of characters. -/
def codesOf (s : List Char) : List Nat := s.map Char.toNat

/-- Reads an escape behind its backslash.  It may stand for a code point that is no character. -/
def readEscape (c : Cursor) : Except Fault (List Nat × Cursor) :=
  match c.rest with
  | [] => .error .malformed
  | d :: s =>
    match escapes.lookup d with
    | some e => .ok ([e.toNat], c.pass)
    | none =>
      match codeEscapes.lookup d with
      | some width => do
        let code ← readCode width s
        pure ([code], c.advance (width + 1))
      | none =>
        match c.lineBreak? with
        | some (_, c) => do
          let (breaks, c) ← quotedBreaks (c.size + 1) c
          pure (codesOf breaks, c)
        | none => .error .malformed

/-- Reads blanks or a line break inside quotes. -/
def readQuotedGap (c : Cursor) : Except Fault (List Char × Cursor) :=
  let (blanks, c) := c.span isBlank
  match c.lineBreak? with
  | none => .ok (blanks, c)
  | some (b, c) => do
    let (more, c) ← quotedBreaks (c.size + 1) c
    pure (foldedBreaks b more, c)

/-- Reads a quoted scalar behind its first quote: its code points. -/
def readQuoted (double : Bool) : Nat → Cursor → Except Fault (List Nat × Cursor)
  | 0, _ => .error .malformed
  | steps + 1, c =>
    match c.rest with
    | [] => .error .malformed
    | d :: s =>
      if d = '\x22' && double then .ok ([], c.pass)
      else if d = '\x27' && !double then
        if s.head? = some '\x27' then do
          let (more, c) ← readQuoted double steps (c.advance 2)
          pure (d.toNat :: more, c)
        else .ok ([], c.pass)
      else do
        let (text, c) ←
          if d = '\\' && double then readEscape c.pass
          else if isBlank d || isBreak d then do
            let (gap, c) ← readQuotedGap c
            pure (codesOf gap, c)
          else pure ([d.toNat], c.pass)
        let (more, c) ← readQuoted double steps c
        pure (text ++ more, c)

/-- The text that code points make up. -/
def ScalarText.ofCodes (codes : List Nat) : ScalarText :=
  if codes.all (·.isValidChar) then .text (String.ofList (codes.map Char.ofNat)) else .codes codes

theorem ScalarText.ofCodes_codesOf (s : List Char) :
    ofCodes (codesOf s) = .text (String.ofList s) := by
  have hv : (codesOf s).all (·.isValidChar) = true := by
    simp only [codesOf, List.all_map, List.all_eq_true]
    exact fun c _ => decide_eq_true c.valid
  have hm : (codesOf s).map Char.ofNat = s := by
    simp [codesOf, Function.comp_def]
  rw [ofCodes, if_pos hv, hm]

end SvgBuilder.Yaml
