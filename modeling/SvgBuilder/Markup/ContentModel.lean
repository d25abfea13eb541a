import SvgBuilder.Markup.Token

/-!
# Content models

The declaration of an element says what it may hold: nothing, anything, text with some elements
in between, or elements in a given order.  Elements are in groups, inside which one mark
separates all parts, and every part may be followed by how often it occurs.

## Main definitions

* `readContentModel`: reading what an element may hold.
-/

namespace SvgBuilder.Markup

open SvgBuilder.Text

/-- The text behind the mark of how often a part occurs, if there is one. -/
def skipOccurrence : List Char → List Char
  | c :: s => if c = '?' ∨ c = '*' ∨ c = '+' then s else c :: s
  | [] => []

/-- The text behind the names of the elements that may stand in a text, up to the end of their
group.  `steps` bounds their number. -/
def readAlternatives : Nat → List Char → Except Fault (List Char)
  | 0, _ => .error .doctype
  | steps + 1, s =>
    match skipSpace s with
    | '|' :: t => do
      let (_, rest) ← readName .doctype (skipSpace t)
      readAlternatives steps rest
    | ')' :: '*' :: t => .ok t
    | _ => .error .doctype

/-- The text behind the model of a text, from behind the word for it on. -/
def readMixed (s : List Char) : Except Fault (List Char) :=
  match skipSpace s with
  | ')' :: '*' :: t => .ok t
  | ')' :: t => .ok t
  | t => readAlternatives (t.length + 1) t

/-- How deeply groups may be nested. -/
def maxGroupDepth : Nat := 256

/-- The text behind the last of the groups that are open.  `separators` holds the mark that
separates the parts of each of them, the innermost first, and `part` says whether a part stands
next.  `steps` bounds the number of parts and marks. -/
def readGroups : Nat → List (Option Char) → Bool → List Char → Except Fault (List Char)
  | 0, _, _, _ => .error .doctype
  | steps + 1, separators, true, s =>
    match skipSpace s with
    | '(' :: t =>
      if separators.length < maxGroupDepth then readGroups steps (none :: separators) true t
      else .error .doctype
    | t => do
      let (_, rest) ← readName .doctype t
      readGroups steps separators false (skipOccurrence rest)
  | steps + 1, separator :: separators, false, s =>
    match skipSpace s with
    | ')' :: t =>
      if separators.isEmpty then .ok (skipOccurrence t)
      else readGroups steps separators false (skipOccurrence t)
    | c :: t =>
      if (c = ',' ∨ c = '|') ∧ separator.all (· = c) then
        readGroups steps (some c :: separators) true t
      else .error .doctype
    | [] => .error .doctype
  | _ + 1, [], false, _ => .error .doctype

/-- The text behind a content model. -/
def readContentModel (s : List Char) : Except Fault (List Char) :=
  match (behind? "EMPTY" s).orElse fun _ => behind? "ANY" s with
  | some t => .ok t
  | none =>
    match s with
    | '(' :: t =>
      match behind? "#PCDATA" (skipSpace t) with
      | some t => readMixed t
      | none => readGroups (t.length + 1) [none] true t
    | _ => .error .doctype

end SvgBuilder.Markup
