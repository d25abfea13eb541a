import SvgBuilder.Markup.Node

/-!
# Namespaces in scope

The scope of an element lists the prefixes that are bound there: first the declarations of the
element itself, then those of the enclosing scope whose prefix is not declared again.  An
attribute in a namespace is named by the first prefix of the scope that is bound to it, and else
by a prefix that documents of this kind commonly use for it.

## Main results

* `qualified_plain`: a name without a namespace is kept.
-/

namespace SvgBuilder.Markup

/-- The namespace that the prefix of the markup language itself stands for. -/
def markupSpace : String := "http://www.w3.org/XML/1998/namespace"

/-- The namespace of namespace declarations. -/
def declarationSpace : String := "http://www.w3.org/2000/xmlns/"

/-- Well-known namespaces with their usual prefixes. -/
def knownSpaces : List (String × String) := [
  ("svg", "http://www.w3.org/2000/svg"),
  ("inkscape", "http://www.inkscape.org/namespaces/inkscape"),
  ("sodipodi", "http://sodipodi.sourceforge.net/DTD/sodipodi-0.dtd"),
  ("xlink", "http://www.w3.org/1999/xlink"),
  ("xml", markupSpace)]

/-- The prefixes that are bound, each with its namespace. -/
abbrev Scope := List Binding

namespace Scope

/-- The scope inside an element that makes the given declarations. -/
def enter (own : List Binding) (outer : Scope) : Scope :=
  own ++ outer.filter fun b => !own.any (·.label = b.label)

/-- What a prefix, or none, is bound to. -/
def uri? (scope : Scope) (label : Option String) : Option String :=
  (scope.find? (·.label = label)).map (·.uri)

end Scope

/-- A name in the notation that has its namespace in braces before it. -/
inductive ClarkName where
  | plain (localName : String)
  | qualified (uri localName : String)
  /-- A brace that is not closed, and what stands behind it. -/
  | unclosed (uri : String)
  deriving DecidableEq, Repr

namespace ClarkName

/-- Reads a name. -/
def read (s : String) : ClarkName :=
  match s.toList with
  | '\x7b' :: t =>
    match t.dropWhile (· ≠ '\x7d') with
    | [] => .unclosed (String.ofList t)
    | _ :: rest => .qualified (String.ofList (t.takeWhile (· ≠ '\x7d'))) (String.ofList rest)
  | _ => .plain s

/-- The local part of a name. -/
def localName? : ClarkName → Option String
  | .plain l => some l
  | .qualified _ l => some l
  | .unclosed _ => none

/-- The namespace of a name. -/
def uri? : ClarkName → Option String
  | .plain _ => none
  | .qualified u _ => some u
  | .unclosed u => some u

end ClarkName

/-- The usable prefix that the scope binds to a namespace. -/
def Scope.labelFor? (scope : Scope) (uri : String) : Option String :=
  scope.findSome? fun b =>
    match b.label with
    | some label => if label ≠ "" ∧ b.uri = uri then some label else none
    | none => none

/-- The prefix that stands for a namespace. -/
def labelFor? (scope : Scope) (uri : String) : Option String :=
  (scope.labelFor? uri).orElse fun _ => (knownSpaces.find? (·.2 = uri)).map (·.1)

/-- A name with the prefix that stands for its namespace, if there is one. -/
def qualified (scope : Scope) (name : Name) : String :=
  match name.space with
  | none => name.localName
  | some uri =>
    match labelFor? scope uri with
    | some label => label ++ ":" ++ name.localName
    | none => name.localName

theorem qualified_plain (scope : Scope) (l : String) : qualified scope ⟨none, l⟩ = l := rfl

end SvgBuilder.Markup
