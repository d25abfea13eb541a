import SvgBuilder.Builder.Comment
import SvgBuilder.Builder.Literal

/-!
# Builder expressions

The generated module builds its elements by calls whose arguments are statements that assign
attributes, string literals, further calls and, between them, comments.  `Item` is such an
argument and `Item.render` its text: the arguments of a call stand on lines of their own, two
columns further in, with a comma and a line break between them.

## Main definitions

* `Item`, `Item.render`: builder expressions and their texts.
-/

namespace SvgBuilder

open SvgBuilder.Text

/-- What a statement assigns to. -/
inductive Member where
  /-- A member of the builder. -/
  | named (name : String)
  /-- An attribute without a member of its own, by its name in the document. -/
  | attribute (name : String)
  deriving DecidableEq, Repr

/-- What a statement assigns. -/
inductive Assigned where
  | text (value : String)
  /-- Style declarations. -/
  | map (entries : List (String × String))
  deriving DecidableEq, Repr

/-- An assignment to a member. -/
structure Statement where
  member : Member
  value : Assigned
  deriving DecidableEq, Repr

/-- An argument of a builder call. -/
inductive Item where
  /-- An argument that is the same in every module. -/
  | fixed (text : String)
  | statement (s : Statement)
  | literal (value : String)
  /-- The text of one or more line comments. -/
  | comment (text : String)
  | call (label : String) (items : List Item)

/-- What stands between two arguments. -/
def itemSeparator : String := ",\n"

/-- How far the arguments of a call stand in. -/
def itemMargin : String := "  "

/-- The text of a member. -/
def Member.render : Member → String
  | .named name => "svg." ++ name
  | .attribute name => "svg.svgAttr(" ++ Literal.quote name ++ ", StringAsIsCodec, None)"

/-- The text of one style declaration. -/
def renderEntry (entry : String × String) : String :=
  Literal.quote entry.1 ++ " -> " ++ Literal.quote entry.2

/-- The text of an assigned value. -/
def Assigned.render : Assigned → String
  | .text value => Literal.quote value
  | .map entries => "Map(" ++ joined ", " (entries.map renderEntry) ++ ")"

/-- The text of a statement. -/
def Statement.render (s : Statement) : String := s.member.render ++ " := " ++ s.value.render

/-- A call of a builder method on the text of its arguments. -/
def callText (label content : String) : String :=
  if content = "" then "svg." ++ label ++ "()"
  else "svg." ++ label ++ "(\n" ++ indented itemMargin content ++ "\n)"

namespace Item

mutual

/-- The text of an argument. -/
def render : Item → String
  | .fixed text => text
  | .statement s => s.render
  | .literal value => Literal.quote value
  | .comment text => text
  | .call label items => callText label (joined itemSeparator (renders items))

/-- The texts of arguments. -/
def renders : List Item → List String
  | [] => []
  | item :: items => render item :: renders items

end

/-- The text of a list of arguments. -/
def content (items : List Item) : String := joined itemSeparator (renders items)

@[simp] theorem render_call (label : String) (items : List Item) :
    (Item.call label items).render = callText label (content items) := by
  simp [render, content]

end Item

end SvgBuilder
