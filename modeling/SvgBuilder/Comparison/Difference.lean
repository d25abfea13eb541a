import SvgBuilder.Comparison.Finding
import SvgBuilder.Comparison.Outside
import SvgBuilder.Text.Order
import SvgBuilder.Text.Split

/-!
# What a module misses

A module is compared with its document by the names of elements and attributes that the two texts
hold.  Some members of the builder are named differently from the attributes that they stand for,
and such names are put back.

## Main results

* `mem_missing_iff`: a name is missing if the document has it and the module has not.
-/

namespace SvgBuilder.Comparison

open SvgBuilder.Text

/-- Members of the builder with the attributes that they stand for. -/
def memberAliases : List (String × String) :=
  [("cls", "class"), ("idAttr", "id"), ("stopColor", "stop-color")]

/-- The name of the attribute that a member of the builder stands for. -/
def normalizedName (name : String) : String :=
  match behind? "xmlns_" name.toList with
  | some rest => "xmlns:" ++ String.ofList rest
  | none => (memberAliases.lookup name).getD name

/-- The names that a pattern finds inside the root of a text, in order. -/
def names (pattern : Pattern) (s : String) : List String :=
  sorted ((findings pattern (inside s.toList)).map fun name => normalizedName (String.ofList name))

/-- The names that a pattern finds.  There is no result if something is found that has no name. -/
def names? (pattern : Pattern) (s : String) : Option (List String) :=
  if (findings pattern (inside s.toList)).any List.isEmpty then none else some (names pattern s)

/-- The names of elements in a text. -/
def elementNames (s : String) : List String := names elementPattern s

/-- The names of attributes in a text. -/
def attributeNames (s : String) : List String := names attributePattern s

/-- The names of the first list that are not in the second one. -/
def missing (expected found : List String) : List String := expected.filter (· ∉ found)

/-- The message about missing names of a kind: one, or none if nothing is missing. -/
def missingMessage (kind : String) (names : List String) : List String :=
  if names.isEmpty then []
  else ["Missing " ++ kind ++ " in generated code: " ++ joined ", " names]

/-- What the generated text misses of the given one. -/
def differences (document generated : String) : List String :=
  missingMessage "elements" (missing (elementNames document) (elementNames generated)) ++
    missingMessage "attributes" (missing (attributeNames document) (attributeNames generated))

/-- What the generated text misses of the given one.  There is no result if something is found that
has no name. -/
def differences? (document generated : String) : Option (List String) := do
  let elements ← names? elementPattern document
  let generatedElements ← names? elementPattern generated
  let attributes ← names? attributePattern document
  let generatedAttributes ← names? attributePattern generated
  pure (missingMessage "elements" (missing elements generatedElements) ++
    missingMessage "attributes" (missing attributes generatedAttributes))

theorem mem_missing_iff {expected found : List String} {name : String} :
    name ∈ missing expected found ↔ name ∈ expected ∧ name ∉ found := by
  simp [missing]

end SvgBuilder.Comparison
