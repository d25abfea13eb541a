import SvgBuilder.Markup.PseudoAttribute
import SvgBuilder.Markup.Scope
import SvgBuilder.OrderedMap

/-!
# The attributes of an element by name

The attributes of an element become a map from names to values, in order.  A name in a namespace
is written with a prefix that stands for it.  Some names may be left out.  Of the other nodes
only processing instructions have something like attributes.

## Main definitions

* `attributeMap`: the attributes of an element by name.
-/

namespace SvgBuilder

open SvgBuilder.Markup

/-- The attributes by name, without those whose name is skipped. -/
def attributeMap (scope : Scope) (skipped : List String) (attributes : List Attribute) :
    List (String × String) :=
  OrderedMap.ofPairs <|
    (attributes.map fun a => (qualified scope a.name, a.value)).filter fun (key, _) =>
      key ∉ skipped

/-- The attributes of a node by name.  Those of an instruction are its pseudo-attributes. -/
def nodeAttributeMap (scope : Scope) (skipped : List String) : Node → List (String × String)
  | .element _ _ attributes _ => attributeMap scope skipped attributes
  | .instruction _ data => (pseudoAttributes data).filter fun (key, _) => key ∉ skipped
  | _ => []

end SvgBuilder
