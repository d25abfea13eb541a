import SvgBuilder.Builder.Item
import SvgBuilder.Diagnostic
import SvgBuilder.Markup.Scope

/-!
# Namespace statements

An element states the bindings that its scope has and the enclosing scope has not.  So the root
states every declaration it makes, and what is inside states only what it introduces or rebinds.
Taking back the default namespace is not stated.

## Main results

* `mem_introduced_iff`: which bindings an element states.
* `uri?_outer_of_mem_introduced`: no binding is stated that the enclosing scope has already.
-/

namespace SvgBuilder

open SvgBuilder.Markup

/-- The member of the builder that a declaration is assigned to. -/
def Markup.Binding.memberName (b : Binding) : String :=
  match b.label with
  | none => "xmlns"
  | some label => if label = "" then "xmlns" else "xmlns_" ++ label

/-- Whether a binding is worth stating inside the given scope. -/
def isNewIn (outer : Scope) (b : Binding) : Bool :=
  b.uri ≠ "" && outer.uri? b.label ≠ some b.uri

/-- The bindings that an element with these declarations states. -/
def introduced (own : List Binding) (outer : Scope) : List Binding :=
  (Scope.enter own outer).filter (isNewIn outer)

/-- The statement of a binding. -/
def bindingStatement (b : Binding) : Statement := ⟨.named b.memberName, .text b.uri⟩

/-- The statements of the bindings of an element. -/
def convertNamespaces (own : List Binding) (outer : Scope) : Noted (List Statement) :=
  (introduced own outer).mapM fun b => do
    Noted.info ("Processing namespace: " ++ b.memberName)
    pure (bindingStatement b)

theorem mem_introduced_iff {own : List Binding} {outer : Scope} {b : Binding} :
    b ∈ introduced own outer ↔
      b ∈ Scope.enter own outer ∧ b.uri ≠ "" ∧ outer.uri? b.label ≠ some b.uri := by
  simp [introduced, isNewIn]

theorem uri?_outer_of_mem_introduced {own : List Binding} {outer : Scope} {b : Binding}
    (h : b ∈ introduced own outer) : outer.uri? b.label ≠ some b.uri :=
  (mem_introduced_iff.1 h).2.2

end SvgBuilder
