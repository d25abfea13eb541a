import SvgBuilder.Attribute
import SvgBuilder.Builder.AttributeMap
import SvgBuilder.Builder.Comment
import SvgBuilder.Builder.Namespace

/-!
# Builder calls of elements

An element becomes a call of the builder method of its local name.  The arguments are the
statements of its namespace bindings, those of its attributes, its direct text as a literal unless
that is blank, and then what its children become, in order.  Comments and processing instructions
become line comments; references to entities become nothing.

The children are converted before the element's own statements, and the notes show that.

## Main results

* `convertChildren_nil`, `convertChildren_cons`: children are converted one by one.
-/

namespace SvgBuilder

open SvgBuilder.Markup SvgBuilder.Text

/-- What is left out of an element, its descendants not concerned. -/
structure Omission where
  /-- Names of attributes. -/
  attributes : List String
  /-- Local names of child elements. -/
  children : List String

/-- Nothing is left out. -/
def Omission.none : Omission := ⟨[], []⟩

/-- Whether a child is kept. -/
def Omission.keeps (omission : Omission) : Node → Bool
  | .element name _ _ _ => name.localName ∉ omission.children
  | _ => true

/-- The direct text of a node without the blanks at its ends. -/
def Markup.Node.trimmedText (node : Node) : String := trimmed node.directText

/-- The direct text of an element without the blanks at its ends. -/
def Markup.Element.trimmedText (e : Element) : String := e.node.trimmedText

/-- The text of a processing instruction as it stands in a document. -/
def instructionText (target data : String) : String :=
  "<?" ++ (if data = "" then target else target ++ " " ++ data) ++ "?>"

/-- The literal of a text, unless it is empty. -/
def literalItems (s : String) : List Item := if s = "" then [] else [.literal s]

/-- What an element states itself, ahead of its children. -/
def ownItems (strict : Bool) (skipped : List String) (outer : Scope) (e : Element) :
    Noted (List Item) := do
  let namespaces ← convertNamespaces e.bindings outer
  let scope := Scope.enter e.bindings outer
  let statements ← convertAttributes strict (attributeMap scope skipped e.attributes)
  pure ((namespaces ++ statements).map Item.statement ++ literalItems e.trimmedText)

mutual

/-- What a node becomes. -/
def convertNode (strict : Bool) (outer : Scope) : Node → Noted (List Item)
  | .element name bindings attributes children => do
    Noted.info ("Converting element: " ++ name.localName)
    let inner ← convertChildren strict (Scope.enter bindings outer) children
    let own ← ownItems strict [] outer ⟨name, bindings, attributes, children⟩
    pure [.call name.localName (own ++ inner)]
  | .comment s => do
    Noted.info "Preserving comment"
    pure [.comment (lineComment s)]
  | .instruction target data => do
    Noted.info ("Preserving processing instruction: " ++ target)
    pure [.comment (lineComment (instructionText target data))]
  | .text _ => pure []
  | .reference _ => pure []

/-- What the children of an element become. -/
def convertChildren (strict : Bool) (scope : Scope) : List Node → Noted (List Item)
  | [] => pure []
  | node :: nodes => do
    let first ← convertNode strict scope node
    let rest ← convertChildren strict scope nodes
    pure (first ++ rest)

end

/-- The arguments of the call of an element. -/
def convertContent (strict : Bool) (omission : Omission) (outer : Scope) (e : Element) :
    Noted (List Item) := do
  Noted.info ("Converting element: " ++ e.name.localName)
  let inner ← convertChildren strict (Scope.enter e.bindings outer)
    (e.children.filter omission.keeps)
  let own ← ownItems strict omission.attributes outer e
  pure (own ++ inner)

/-- The call of an element. -/
def convertElement (strict : Bool) (omission : Omission) (outer : Scope) (e : Element) :
    Noted Item := do
  let items ← convertContent strict omission outer e
  pure (.call e.name.localName items)

theorem convertChildren_nil (strict : Bool) (scope : Scope) :
    convertChildren strict scope [] = pure [] := by
  simp [convertChildren]

theorem convertChildren_cons (strict : Bool) (scope : Scope) (node : Node) (nodes : List Node) :
    convertChildren strict scope (node :: nodes) = (do
      let first ← convertNode strict scope node
      let rest ← convertChildren strict scope nodes
      pure (first ++ rest)) := by
  simp [convertChildren]

end SvgBuilder
