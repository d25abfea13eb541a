import SvgBuilder.Builder.Element
import SvgBuilder.Component.Color
import SvgBuilder.Component.Documentation
import SvgBuilder.Component.Settings
import SvgBuilder.Component.ViewBox

/-!
# Modules

The module of a document has a header, the documentation and an object.  The object applies to a
size, a class and further attributes, and builds the root element: its call begins with the
arguments that depend on those parameters and with the definitions that stand directly in the root;
what the root states itself and its other children follow.

## Main definitions

* `assemble`: the module of a document, with the notes made for it.
-/

namespace SvgBuilder

open SvgBuilder.Markup SvgBuilder.Text

/-- The local name of the elements that hold definitions. -/
def definitionsName : String := "defs"

/-- The attributes of the root that the parameters of the module replace. -/
def parameterAttributes : List String := ["width", "height", "viewBox"]

/-- What the root leaves to other parts of the module. -/
def rootOmission : Omission := ⟨parameterAttributes, [definitionsName]⟩

/-- Whether a node is an element that holds definitions. -/
def isDefinitions : Node → Bool
  | .element name _ _ _ => name.localName = definitionsName
  | _ => false

/-- The calls of the definitions that stand directly in the root. -/
def definitions (strict : Bool) (root : Element) : Noted (List Item) :=
  convertChildren strict (Scope.enter root.bindings []) (root.children.filter isDefinitions)

/-- The argument that sets the view box, unless it is empty. -/
def viewBoxItems (box : String) : List Item :=
  if box = "" then [] else [.statement (.assign "viewBox" box)]

/-- The arguments of the root that depend on the parameters of the module. -/
def parameterItems (box : String) : List Item :=
  [.fixed "svg.width := size.toString", .fixed "svg.height := size.toString"] ++
    viewBoxItems box ++ [.fixed "className.map(svg.cls := _).toSeq", .fixed "customAttributes"]

/-- The header of a module by its code points: its package and its imports. -/
def headerText (settings : Settings) : CodeText :=
  let package : List CodeText :=
    match settings.package.filter fun (package : CodeText) => package ≠ "" with
    | none => []
    | some package => ["package " ++ package, ""]
  let imports := settings.imports.map fun (name : CodeText) => "import " ++ name
  CodeText.joined "\n" (package ++ imports)

/-- The header of a module. -/
def header (settings : Settings) : String := (headerText settings).shown

/-- How far the members of the object stand in. -/
def memberMargin : String := "  "

/-- How far the arguments of the root stand in. -/
def argumentMargin : String := "      "

/-- The text of the call that builds the root. -/
def rootCall (items : List Item) : String :=
  "svg.svg(\n" ++ indented argumentMargin (Item.content items) ++ "\n    )"

/-- The lines of the object. -/
def objectLines (moduleName sourceName : String) (settings : Settings) (items : List Item) :
    List String := [
  "object " ++ moduleName ++ ":",
  "  // Generated from SVG file: " ++ sourceName,
  "  def apply(",
  "    size: Int = " ++ Number.integerText settings.defaultSize ++ ",",
  "    className: Option[String] = None,",
  "    customAttributes: Seq[Modifier[SvgElement]] = Seq.empty",
  "  ): SvgElement =",
  "    " ++ rootCall items]

/-- The lines of the colors, if they become constants. -/
def colorLines (settings : Settings) (root : Element) : List String :=
  if settings.colorConstants ∧ colorConstants root ≠ "" then
    ["", indented memberMargin (colorConstants root)]
  else []

/-- The arguments of the root. -/
def rootItems (settings : Settings) (root : Element) : Noted (List Item) := do
  let box ← viewBox root
  let definitions ← definitions settings.strictTransforms root
  let body ← convertContent settings.strictTransforms rootOmission [] root
  pure (parameterItems box ++ definitions ++ body)

/-- The module of a document. -/
def assemble (settings : Settings) (moduleName sourceName : String) (root : Element) :
    Noted String := do
  let items ← rootItems settings root
  let lines := [header settings, "", documentation root] ++
    objectLines moduleName sourceName settings items ++ colorLines settings root
  pure (joined "\n" lines ++ "\n")

/-- What stands in front of the name of the object of a module, by its code points. -/
def moduleStart (settings : Settings) (root : Element) : CodeText :=
  CodeText.joined "\n" [headerText settings, "", documentation root] ++ "\nobject "

end SvgBuilder
