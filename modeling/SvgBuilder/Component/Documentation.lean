import SvgBuilder.Markup.Node
import SvgBuilder.Text.Blank
import SvgBuilder.Text.Split

/-!
# Documentation of a module

A module is documented by the title and the description of its document.  Each stands on one line,
and what would begin or end a comment is written with the code of its second character.

## Main definitions

* `documentation`: the documentation of the module of a document.
-/

namespace SvgBuilder

open SvgBuilder.Markup SvgBuilder.Text

/-- The text with every occurrence of a pattern of two characters replaced, from left to right. -/
def replacedPair (a b : Char) (replacement : List Char) : List Char → List Char
  | [] => []
  | [c] => [c]
  | c :: d :: s =>
    if c = a ∧ d = b then replacement ++ replacedPair a b replacement s
    else c :: replacedPair a b replacement (d :: s)

/-- A text on one line that neither begins nor ends a comment. -/
def documentationText (s : String) : String :=
  let line := (joined " " ((words s.toList).map String.ofList)).toList
  String.ofList <|
    replacedPair '/' '*' "/&#42;".toList (replacedPair '*' '/' "*&#47;".toList line)

/-- The text of the first element with a local name, empty if there is none. -/
def textOfFirst (root : Element) (localName : String) : String :=
  match root.findFirst? localName with
  | none => ""
  | some e => trimmed e.node.fullText

/-- The title of a document that has none. -/
def defaultTitle : String := "SVG Component"

/-- The lines about the parameters of a component. -/
def parameterLines : List String := [
  " *",
  " * @param size The size of the SVG (both width and height)",
  " * @param className Optional CSS class name to apply to the SVG",
  " * @param customAttributes Additional SVG attributes to apply",
  " */"]

/-- The lines about the description of a document. -/
def descriptionLines (description : String) : List String :=
  if description = "" then []
  else [" *", " * Description: " ++ documentationText description]

/-- The documentation of the module of a document. -/
def documentation (root : Element) : String :=
  let title := textOfFirst root "title"
  let title := if title = "" then defaultTitle else title
  joined "\n" <|
    ["/**", " * " ++ documentationText title] ++ descriptionLines (textOfFirst root "desc") ++
      parameterLines

end SvgBuilder
