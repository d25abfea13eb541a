import SvgBuilder.OrderedMap
import SvgBuilder.Text.Blank
import SvgBuilder.Text.Search
import SvgBuilder.Text.Word

/-!
# Pseudo-attributes of processing instructions

The data of a processing instruction may look like attributes: behind blanks a word, an equals
sign and a text in quotes.  Whatever does not look so is passed over.

## Main definitions

* `pseudoAttributes`: the pseudo-attributes in the data of an instruction.
-/

namespace SvgBuilder.Markup

open SvgBuilder.Text

/-- The pseudo-attribute that a text begins with, and the text behind it. -/
def readPseudoAttribute? (s : List Char) : Option ((String × String) × List Char) :=
  if !s.head?.any isBlank then none
  else
    let s := s.dropWhile isBlank
    let name := s.takeWhile isWord
    if name.isEmpty then none
    else
      match (s.dropWhile isWord).dropWhile isBlank with
      | '=' :: t =>
        match t.dropWhile isBlank with
        | quote :: t =>
          if quote = '\x22' ∨ quote = '\x27' then
            (upTo [quote] t).map fun (value, rest) =>
              ((String.ofList name, String.ofList value), rest)
          else none
        | [] => none
      | _ => none

/-- The pseudo-attributes in a text.  The number bounds the steps. -/
def pseudoAttributesFrom : Nat → List Char → List (String × String)
  | 0, _ => []
  | _, [] => []
  | steps + 1, c :: s =>
    match readPseudoAttribute? (c :: s) with
    | some (found, rest) => found :: pseudoAttributesFrom steps rest
    | none => pseudoAttributesFrom steps s

/-- The pseudo-attributes in the data of an instruction, each name once. -/
def pseudoAttributes (data : String) : List (String × String) :=
  OrderedMap.ofPairs (pseudoAttributesFrom (data.length + 1) (' ' :: data.toList))

end SvgBuilder.Markup
