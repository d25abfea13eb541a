/-!
# Documents as trees

A document is a tree of elements with texts, comments, processing instructions and references to
entities between them.  Names are expanded: they hold the namespace that their prefix stands for.
An element keeps the namespace declarations that it makes itself.

The nodes that a path counts are all but the texts.

## Main definitions

* `Element.directText`: the texts directly inside an element, joined.
* `Node.elements`: the elements of a subtree in document order.
-/

namespace SvgBuilder.Markup

/-- An expanded name. -/
structure Name where
  space : Option String
  localName : String
  deriving DecidableEq, Repr

/-- A name with its namespace in braces before it. -/
def Name.clark (name : Name) : String :=
  match name.space with
  | none => name.localName
  | some uri => "\x7b" ++ uri ++ "\x7d" ++ name.localName

/-- A name as it is read back from that notation, where the namespace ends at the first closing
brace. -/
def Name.reread (name : Name) : Name :=
  match name.space with
  | none => name
  | some uri =>
    match uri.toList.dropWhile (· ≠ '\x7d') with
    | [] => name
    | _ :: rest =>
      ⟨some (String.ofList (uri.toList.takeWhile (· ≠ '\x7d'))),
        String.ofList rest ++ "\x7d" ++ name.localName⟩

/-- A declaration that a prefix, or none, stands for a namespace. -/
structure Binding where
  label : Option String
  uri : String
  deriving DecidableEq, Repr

/-- An attribute with its expanded name. -/
structure Attribute where
  name : Name
  value : String
  deriving DecidableEq, Repr

/-- A node of a document. -/
inductive Node where
  | element (name : Name) (bindings : List Binding) (attributes : List Attribute)
      (children : List Node)
  | text (content : String)
  | comment (content : String)
  /-- A processing instruction. -/
  | instruction (target data : String)
  /-- A reference to an entity that is not expanded. -/
  | reference (name : String)

/-- An element node. -/
structure Element where
  name : Name
  bindings : List Binding
  attributes : List Attribute
  children : List Node

/-- The node of an element. -/
def Element.node (e : Element) : Node := .element e.name e.bindings e.attributes e.children

namespace Node

/-- The element that a node is. -/
def element? : Node → Option Element
  | .element name bindings attributes children => some ⟨name, bindings, attributes, children⟩
  | _ => none

/-- Whether a node is a text. -/
def isText : Node → Bool
  | .text _ => true
  | _ => false

/-- The text that a node directly is. -/
def ownText : Node → String
  | .text s => s
  | _ => ""

/-- The declarations that a node makes. -/
def bindings : Node → List Binding
  | .element _ bindings _ _ => bindings
  | _ => []

/-- The nodes inside a node. -/
def children : Node → List Node
  | .element _ _ _ children => children
  | _ => []

/-- The children that a path counts. -/
def countedChildren (node : Node) : List Node := node.children.filter (!·.isText)

/-- The text directly inside a node: that of a comment, the data of an instruction, and what a
reference is written as. -/
def directText : Node → String
  | .element _ _ _ children => String.join (children.map ownText)
  | .text s => s
  | .comment s => s
  | .instruction _ data => data
  | .reference name => "&" ++ name ++ ";"

mutual

/-- The elements of a subtree, in document order. -/
def elements : Node → List Element
  | .element name bindings attributes children =>
    ⟨name, bindings, attributes, children⟩ :: elementsOf children
  | _ => []

/-- The elements of some subtrees. -/
def elementsOf : List Node → List Element
  | [] => []
  | node :: nodes => elements node ++ elementsOf nodes

end

mutual

/-- All text of a subtree.  A reference is written out, comments and instructions have none. -/
def fullText : Node → String
  | .element _ _ _ children => fullTextOf children
  | .text s => s
  | .reference name => "&" ++ name ++ ";"
  | _ => ""

/-- All text of some subtrees. -/
def fullTextOf : List Node → String
  | [] => ""
  | node :: nodes => fullText node ++ fullTextOf nodes

end

@[simp] theorem element?_node (e : Element) : e.node.element? = some e := rfl

theorem elementsOf_eq_flatMap (nodes : List Node) : elementsOf nodes = nodes.flatMap elements := by
  induction nodes with
  | nil => simp [elementsOf]
  | cons node nodes ih => simp [elementsOf, ih]

end Node

namespace Element

/-- The elements of the subtree, this one first. -/
def elements (e : Element) : List Element := e :: Node.elementsOf e.children

/-- The texts directly inside the element, joined. -/
def directText (e : Element) : String := e.node.directText

/-- The value of the attribute that has this name and no namespace. -/
def attribute? (e : Element) (name : String) : Option String :=
  (e.attributes.find? (·.name = ⟨none, name⟩)).map (·.value)

/-- The first element of the subtree with this local name. -/
def findFirst? (e : Element) (localName : String) : Option Element :=
  e.elements.find? (·.name.localName = localName)

end Element

end SvgBuilder.Markup
