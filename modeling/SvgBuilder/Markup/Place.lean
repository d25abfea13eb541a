import SvgBuilder.Markup.Scope

/-!
# Places in a document

A place is a node together with the scope around it.  A path leads to a place: it lists which of
the counted children to enter, from the root on.  The elements of a subtree are listed with their
paths.

## Main results

* `Place.follow?_append`: a path is followed step by step.
-/

namespace SvgBuilder.Markup

/-- A node and the scope around it. -/
structure Place where
  outer : Scope
  node : Node

namespace Place

/-- The place of a root. -/
def ofRoot (root : Element) : Place := ⟨[], root.node⟩

/-- The scope inside the node, which is empty unless it is an element. -/
def scope (place : Place) : Scope :=
  match place.node with
  | .element _ bindings _ _ => Scope.enter bindings place.outer
  | _ => []

/-- The place of a counted child. -/
def child? (place : Place) (index : Nat) : Option Place :=
  place.node.countedChildren[index]?.map fun node => ⟨place.scope, node⟩

/-- The place that a path leads to. -/
def follow? : List Nat → Place → Option Place
  | [], place => some place
  | index :: path, place => (place.child? index).bind (follow? path)

@[simp] theorem follow?_nil (place : Place) : follow? [] place = some place := rfl

theorem follow?_append (p q : List Nat) (place : Place) :
    follow? (p ++ q) place = (follow? p place).bind (follow? q) := by
  induction p generalizing place with
  | nil => rfl
  | cons i p ih =>
    simp only [List.cons_append, follow?]
    cases place.child? i with
    | none => rfl
    | some next => simp [ih]

end Place

/-! ## Paths of elements -/

mutual

/-- The elements of a subtree with their paths, in document order. -/
def Node.located (path : List Nat) : Node → List (List Nat × Element)
  | .element name bindings attributes children =>
    (path, ⟨name, bindings, attributes, children⟩) :: Node.locatedOf path 0 children
  | _ => []

/-- The elements of some children with their paths, counting from an index on. -/
def Node.locatedOf (path : List Nat) (index : Nat) : List Node → List (List Nat × Element)
  | [] => []
  | node :: nodes =>
    Node.located (path ++ [index]) node ++
      Node.locatedOf path (if node.isText then index else index + 1) nodes

end

/-- The paths of the elements of a subtree that have a local name. -/
def Node.pathsOf (path : List Nat) (localName : String) (node : Node) : List (List Nat) :=
  ((Node.located path node).filter (·.2.name.localName = localName)).map (·.1)

end SvgBuilder.Markup
