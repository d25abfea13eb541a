import SvgBuilder.Builder.Literal
import SvgBuilder.Markup.Node
import SvgBuilder.OrderedMap
import SvgBuilder.Text.Case
import SvgBuilder.Text.Split
import SvgBuilder.Text.Word

/-!
# Colors

A color literal is a number sign with three to eight hexadecimal digits that end a word, or one of
two functions with arguments.  The color literals in the attribute values of a document become
constants, each under a name that is derived from it, in the order in which they appear.

## Main definitions

* `colors`: the color literals of a document.
* `colorConstants`: the constants for them.
-/

namespace SvgBuilder

open SvgBuilder.Markup SvgBuilder.Text

/-- A hexadecimal digit. -/
def isHexDigit (c : Char) : Bool :=
  ('0' ≤ c && c ≤ '9') || ('a' ≤ c && c ≤ 'f') || ('A' ≤ c && c ≤ 'F')

/-- The hexadecimal color that stands behind a number sign. -/
def hexColor? (s : List Char) : Option (List Char) :=
  let digits := s.takeWhile isHexDigit
  if 3 ≤ digits.length ∧ digits.length ≤ 8 ∧ !((s.dropWhile isHexDigit).head?.any isWord) then
    some ('#' :: digits)
  else none

/-- The arguments of a color function, from behind the opening parenthesis to the closing one. -/
def colorArguments? (s : List Char) : Option (List Char) :=
  let arguments := s.takeWhile (· ≠ ')')
  if !arguments.isEmpty ∧ arguments.length < s.length then some (arguments ++ [')']) else none

/-- The color literal that a text begins with. -/
def colorAt? : List Char → Option (List Char)
  | '#' :: s => hexColor? s
  | 'r' :: 'g' :: 'b' :: '(' :: s => (colorArguments? s).map ("rgb(".toList ++ ·)
  | 'r' :: 'g' :: 'b' :: 'a' :: '(' :: s => (colorArguments? s).map ("rgba(".toList ++ ·)
  | _ => none

/-- The color literals in a text.  `skip` counts the characters that belong to the literal
before. -/
def colorsFrom (skip : Nat) : List Char → List String
  | [] => []
  | c :: s =>
    match skip with
    | skip + 1 => colorsFrom skip s
    | 0 =>
      match colorAt? (c :: s) with
      | some color => String.ofList color :: colorsFrom (color.length - 1) s
      | none => colorsFrom 0 s

/-- The color literals in a text, from left to right. -/
def colorsIn (s : String) : List String := colorsFrom 0 s.toList

/-- The parts that the arguments of a color function give to its name. -/
def nameParts (arguments : List Char) : List String :=
  let arguments := (arguments.reverse.dropWhile (· = ')')).reverse
  ((splitAt ',' arguments).map fun part => String.ofList (part.filter isWord)).filter (· ≠ "")

/-- The name of the constant of a color. -/
def colorName (color : String) : String :=
  match color.toList with
  | '#' :: digits => "color_" ++ lowercase (String.ofList digits)
  | s =>
    let function := lowercase (String.ofList (s.takeWhile (· ≠ '(')))
    joined "_" ("color" :: function :: nameParts (s.dropWhile (· ≠ '(')).tail)

/-- The colors of a document by name, in the order of their first appearance. -/
def colors (root : Element) : List (String × String) :=
  (root.elements.flatMap fun e => e.attributes.flatMap fun a => colorsIn a.value).foldl
    (fun m color => OrderedMap.putNew (colorName color) color m) []

/-- How far the constants stand in. -/
def constantMargin : String := "  "

/-- The definition of a constant. -/
def constantLine (constant : String × String) : String :=
  constantMargin ++ "val " ++ constant.1 ++ " = " ++ Literal.quote constant.2

/-- The object that holds the colors, empty if there are none. -/
def colorConstants (root : Element) : String :=
  match colors root with
  | [] => ""
  | constants =>
    joined "\n" <|
      ["// Color constants used in this SVG", "object Colors:"] ++ constants.map constantLine

end SvgBuilder
