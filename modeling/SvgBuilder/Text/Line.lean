import SvgBuilder.Text.Blank

/-!
# Lines

Text is cut into lines at line feeds, carriage returns (one together with the line feed that
follows it), vertical tabs, form feeds, the first three information separators of ASCII, the
next-line control and the two separators of Unicode.  `pieces` keeps with every line the break
that ends it, so that the pieces make up the text again; `lines` drops the breaks.  `indented`
puts a margin before every line that is not blank.

## Main results

* `flatten_pieces`: the pieces make up the text.
-/

namespace SvgBuilder.Text

/-- The characters that end a line. -/
def isLineBreak (c : Char) : Bool :=
  let n := c.toNat
  (10 ≤ n && n ≤ 13) || (28 ≤ n && n ≤ 30) || n = 0x85 || n = 0x2028 || n = 0x2029

/-- The lines of a text, each with the break that ends it.  `line` is what has been read of the
current one, in reverse.  A carriage return before a line feed does not end the line yet. -/
def piecesFrom (line : List Char) : List Char → List (List Char)
  | [] => if line.isEmpty then [] else [line.reverse]
  | c :: s =>
    if c = '\r' ∧ s.head? = some '\n' then piecesFrom (c :: line) s
    else if isLineBreak c then (c :: line).reverse :: piecesFrom [] s
    else piecesFrom (c :: line) s

/-- The lines of a text, each with the break that ends it. -/
def pieces (s : List Char) : List (List Char) := piecesFrom [] s

/-- A line without its break. -/
def withoutBreak (piece : List Char) : List Char := piece.takeWhile (!isLineBreak ·)

/-- The lines of a text, without their breaks. -/
def lines (s : List Char) : List (List Char) := (pieces s).map withoutBreak

/-- A line with a margin, unless it is blank. -/
def withMargin (margin piece : List Char) : List Char :=
  if piece.all isBlank then piece else margin ++ piece

/-- The text with a margin before every line that is not blank. -/
def indented (margin s : String) : String :=
  String.ofList ((pieces s.toList).flatMap (withMargin margin.toList))

theorem flatten_piecesFrom (line s : List Char) :
    (piecesFrom line s).flatten = line.reverse ++ s := by
  fun_induction piecesFrom line s <;> simp_all

theorem flatten_pieces (s : List Char) : (pieces s).flatten = s := by
  simp [pieces, flatten_piecesFrom]

end SvgBuilder.Text
