import SvgBuilder.Yaml.Cursor

/-!
# Block scalars

A block scalar is a run of lines that are indented more deeply than what is around them.  Its
header may say how deeply, and what becomes of the line breaks at its end.  In a folded one a
single break between two lines that do not begin with a blank becomes a space.

## Main definitions

* `readBlock`: the text of a block scalar.
-/

namespace SvgBuilder.Yaml

/-- What becomes of the line breaks at the end of a block scalar. -/
inductive Chomping where
  /-- None is kept. -/
  | strip
  /-- One is kept. -/
  | clip
  /-- All are kept. -/
  | keep
  deriving DecidableEq, Repr

/-- The breaks that are kept of the last line break and those behind it. -/
def Chomping.tail (last more : List Char) : Chomping → List Char
  | .strip => []
  | .clip => last
  | .keep => last ++ more

/-- The chomping that a mark stands for. -/
def Chomping.ofMark? (c : Option Char) : Option Chomping :=
  if c = some '+' then some .keep else if c = some '-' then some .strip else none

/-- The number of columns that a mark stands for. -/
def incrementOf? (c : Option Char) : Option Nat :=
  c.bind fun c => if '0' ≤ c ∧ c ≤ '9' then some (c.toNat - 48) else none

/-- Reads the marks of a header: an increment and a chomping, in either order. -/
def readMarks (c : Cursor) : (Option Nat × Chomping) × Cursor :=
  match Chomping.ofMark? (c.peek 0) with
  | some chomping =>
    match incrementOf? (c.peek 1) with
    | some n => ((some n, chomping), c.advance 2)
    | none => ((none, chomping), c.pass)
  | none =>
    match incrementOf? (c.peek 0) with
    | some n =>
      match Chomping.ofMark? (c.peek 1) with
      | some chomping => ((some n, chomping), c.advance 2)
      | none => ((some n, .clip), c.pass)
    | none => ((none, .clip), c)

/-- Reads the header of a block scalar and the end of its line. -/
def readBlockHeader (c : Cursor) : Except Fault ((Option Nat × Chomping) × Cursor) :=
  let ((increment, chomping), c) := readMarks c
  if increment = some 0 || !endsWord (c.peek 0) then .error .malformed
  else
    let c := c.skipSpaces.skipComment
    if endsLine (c.peek 0) then
      .ok ((increment, chomping), ((c.lineBreak?.map (·.2)).getD c))
    else .error .malformed

/-- The line breaks before the first line, the largest column reached, and the cursor behind
them. -/
def readIndentation (steps largest : Nat) (c : Cursor) : (List Char × Nat) × Cursor :=
  match steps with
  | 0 => (([], largest), c)
  | steps + 1 =>
    let c := c.skipSpaces
    let largest := max largest c.column
    match c.lineBreak? with
    | none => (([], largest), c)
    | some (b, c) =>
      let ((more, largest), c) := readIndentation steps largest c
      ((b :: more, largest), c)

/-- The cursor behind spaces up to a column. -/
def skipIndent (indent : Nat) (c : Cursor) : Cursor :=
  c.advance (min (indent - c.column) (c.rest.takeWhile (· = ' ')).length)

/-- The line breaks before a line of the given indentation. -/
def readBlockBreaks (indent : Nat) : Nat → Cursor → List Char × Cursor
  | 0, c => ([], c)
  | steps + 1, c =>
    let c := skipIndent indent c
    match c.lineBreak? with
    | none => ([], c)
    | some (b, c) =>
      let (more, c) := readBlockBreaks indent steps c
      (b :: more, c)

/-- Reads the lines of a block scalar.  `breaks` are the line breaks before the next one. -/
def readLines (folded : Bool) (chomping : Chomping) (indent : Nat) :
    Nat → List Char → Cursor → List Char × Cursor
  | 0, _, c => ([], c)
  | steps + 1, breaks, c =>
    let (line, behind) := c.span (!isBreak ·)
    let (last, behind) := match behind.lineBreak? with
      | some (b, c) => ([b], c)
      | none => ([], behind)
    let (more, next) := readBlockBreaks indent (behind.size + 1) behind
    if next.column = indent ∧ next.rest ≠ [] then
      let join :=
        if folded && last = ['\n'] && !(c.peek 0).any isBlank && !(next.peek 0).any isBlank then
          if more.isEmpty then [' '] else []
        else last
      let (text, c) := readLines folded chomping indent steps more next
      (breaks ++ line ++ join ++ text, c)
    else (breaks ++ line ++ chomping.tail last more, next)

/-- Reads a block scalar behind its indicator.  `outer` is the indentation around it. -/
def readBlock (folded : Bool) (outer : Int) (c : Cursor) : Except Fault (List Char × Cursor) := do
  let ((increment, chomping), c) ← readBlockHeader c
  let least := (outer + 1).toNat.max 1
  let ((breaks, indent), c) := match increment with
    | none =>
      let ((breaks, largest), c) := readIndentation (c.size + 1) 0 c
      ((breaks, least.max largest), c)
    | some n =>
      let indent := least + n - 1
      let (breaks, c) := readBlockBreaks indent (c.size + 1) c
      ((breaks, indent), c)
  if c.column = indent ∧ c.rest ≠ [] then
    pure (readLines folded chomping indent (c.size + 1) breaks c)
  else pure (chomping.tail [] breaks, c)

end SvgBuilder.Yaml
