import SvgBuilder.Text.RangeTable
import SvgBuilder.Text.Split

/-!
# Characters and names of markup

The characters that a document may hold, the blanks between its parts, and names: a name begins
with a letter, an underscore or a colon and goes on with those, digits and a few marks.  A
qualified name has no colon, or one with a name before it and behind it.

## Main definitions

* `isChar`, `isSpace`, `isNameChar`: the classes of characters.
* `QualifiedName.ofName?`: a name with the prefix that it has.
-/

namespace SvgBuilder.Markup

open SvgBuilder.Text

/-- The characters that a document may hold. -/
def isChar (c : Char) : Bool :=
  let n := c.toNat
  n = 9 || n = 10 || n = 13 || (0x20 ≤ n && n ≤ 0xD7FF) || (0xE000 ≤ n && n ≤ 0xFFFD) ||
    0x10000 ≤ n

/-- Space, tab, line feed and carriage return. -/
def isSpace (c : Char) : Bool := c = ' ' || c = '\t' || c = '\n' || c = '\r'

/-- The letters beyond ASCII that a name may begin with. -/
def nameStartTable : RangeTable := [
  (0xC0, 0xD6), (0xD8, 0xF6), (0xF8, 0x2FF), (0x370, 0x37D), (0x37F, 0x1FFF), (0x200C, 0x200D),
  (0x2070, 0x218F), (0x2C00, 0x2FEF), (0x3001, 0xD7FF), (0xF900, 0xFDCF), (0xFDF0, 0xFFFD),
  (0x10000, 0xEFFFF)]

/-- The other characters beyond ASCII that a name may hold. -/
def nameMarkTable : RangeTable := [(0xB7, 0xB7), (0x300, 0x36F), (0x203F, 0x2040)]

/-- What a name may begin with. -/
def isNameStart (c : Char) : Bool :=
  c.isAlpha || c = '_' || c = ':' || nameStartTable.has c.toNat

/-- What a name may hold. -/
def isNameChar (c : Char) : Bool :=
  isNameStart c || c.isDigit || c = '-' || c = '.' || nameMarkTable.has c.toNat

/-- A name without a colon. -/
def isLocalName : List Char → Bool
  | [] => false
  | c :: s => isNameStart c && c ≠ ':' && s.all fun d => isNameChar d && d ≠ ':'

/-- A name as it is written, with its prefix. -/
structure QualifiedName where
  label : Option String
  localName : String
  deriving DecidableEq, Repr

/-- Takes a name apart at its colon. -/
def QualifiedName.ofName? (name : List Char) : Option QualifiedName :=
  match splitAt ':' name with
  | [l] => if isLocalName l then some ⟨none, String.ofList l⟩ else none
  | [p, l] =>
    if isLocalName p && isLocalName l then some ⟨some (String.ofList p), String.ofList l⟩
    else none
  | _ => none

end SvgBuilder.Markup
