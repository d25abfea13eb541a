import SvgBuilder.Markup.Character
import SvgBuilder.Markup.Fault

/-!
# References in text

Text between tags and in attribute values holds references: a code point by number, or a name
between an ampersand and a semicolon.  Five names stand for a character each; the others are
entities, whose replacement is not put in here.

## Main definitions

* `Reference.read`, `textPieces`: reading a reference, and a text with references.
-/

namespace SvgBuilder.Markup

/-- What a reference stands for. -/
inductive Reference where
  | char (c : Char)
  | name (name : String)
  deriving DecidableEq, Repr

/-- The value of a hexadecimal digit. -/
def hexValue? (c : Char) : Option Nat :=
  if '0' ≤ c ∧ c ≤ '9' then some (c.toNat - 48)
  else if 'a' ≤ c ∧ c ≤ 'f' then some (c.toNat - 87)
  else if 'A' ≤ c ∧ c ≤ 'F' then some (c.toNat - 55)
  else none

/-- The value of a decimal digit. -/
def decimalValue? (c : Char) : Option Nat :=
  if '0' ≤ c ∧ c ≤ '9' then some (c.toNat - 48) else none

/-- The character of a code point written in the given base. -/
def charOfCode? (base : Nat) (digit? : Char → Option Nat) (s : List Char) : Option Char :=
  match s.mapM digit? with
  | none => none
  | some [] => none
  | some digits =>
    let n := digits.foldl (fun n d => min 0x110000 (n * base + d)) 0
    if n.isValidChar ∧ isChar (Char.ofNat n) then some (Char.ofNat n) else none

/-- The reference that stands between an ampersand and a semicolon. -/
def Reference.read (s : List Char) : Except Fault Reference :=
  let code := match s with
    | '#' :: 'x' :: digits => some (charOfCode? 16 hexValue? digits)
    | '#' :: digits => some (charOfCode? 10 decimalValue? digits)
    | _ => none
  match code with
  | some (some c) => .ok (.char c)
  | some none => .error .reference
  | none =>
    match s with
    | c :: t =>
      if isNameStart c && t.all isNameChar then .ok (.name (String.ofList s))
      else .error .reference
    | [] => .error .reference

/-- The characters that have names of their own. -/
def namedChar? (name : String) : Option Char :=
  if name = "lt" then some '<'
  else if name = "gt" then some '>'
  else if name = "amp" then some '&'
  else if name = "apos" then some '\x27'
  else if name = "quot" then some '\x22'
  else none

/-- A part of a text: a character, or an entity by its name. -/
inductive Piece where
  | char (c : Char)
  | entity (name : String)
  deriving DecidableEq, Repr

/-- The piece that a reference is. -/
def Reference.piece : Reference → Piece
  | .char c => .char c
  | .name n =>
    match namedChar? n with
    | some c => .char c
    | none => .entity n

/-- Takes a text apart.  `pending` is what has been read, in reverse, of a reference that has
begun. -/
def piecesFrom (pending : Option (List Char)) : List Char → Except Fault (List Piece)
  | [] =>
    match pending with
    | none => .ok []
    | some _ => .error .reference
  | c :: s =>
    match pending with
    | some name =>
      if c = ';' then do
        let reference ← Reference.read name.reverse
        let rest ← piecesFrom none s
        pure (reference.piece :: rest)
      else piecesFrom (some (c :: name)) s
    | none =>
      if c = '&' then piecesFrom (some []) s
      else do
        let rest ← piecesFrom none s
        pure (.char c :: rest)

/-- Takes a text apart into characters and entities. -/
def textPieces (s : List Char) : Except Fault (List Piece) := piecesFrom none s

end SvgBuilder.Markup
