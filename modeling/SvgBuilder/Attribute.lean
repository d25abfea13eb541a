import SvgBuilder.Style
import SvgBuilder.Transform.Reader

/-!
# Attributes

Every attribute of the document becomes one statement.  `AttributeRule` lists the ways to write
it, and `AttributeRule.find` says which one an attribute takes: the first of them in the order
given there that accepts its name and value.

## Main results

* `find_eq_namespaced_iff`: which attributes are written by their name in the document.
-/

namespace SvgBuilder

open SvgBuilder.Text

/-- The attributes that hold geometry or a system of coordinates. -/
def geometricNames : List String :=
  ["d", "points", "transform", "viewBox", "preserveAspectRatio", "gradientTransform",
    "patternTransform", "maskContentUnits"]

/-- The geometric attributes that hold a transform list. -/
def transformNames : List String := ["transform", "gradientTransform", "patternTransform"]

/-- The ways to write an attribute. -/
inductive AttributeRule where
  | classNames
  | style
  /-- A fill that refers to a paint server. -/
  | fillReference
  | namespaced
  | geometric
  | identifier
  | stopColor
  | default
  deriving DecidableEq, Repr

namespace AttributeRule

/-- The name of the rule. -/
def kind : AttributeRule → String
  | .classNames => "class"
  | .style => "style"
  | .fillReference => "fill-reference"
  | .namespaced => "namespaced"
  | .geometric => "geometric"
  | .identifier => "id"
  | .stopColor => "stop-color"
  | .default => "default"

/-- The rule that an attribute takes. -/
def find (name value : String) : AttributeRule :=
  if name = "class" then .classNames
  else if name = "style" then .style
  else if name = "fill" ∧ "url(".toList.isPrefixOf value.toList then .fillReference
  else if ':' ∈ name.toList then .namespaced
  else if name ∈ geometricNames then .geometric
  else if name = "id" then .identifier
  else if name = "stop-color" then .stopColor
  else .default

theorem find_eq_namespaced_iff {name value : String} :
    find name value = .namespaced ↔ ':' ∈ name.toList := by
  unfold find
  by_cases h₁ : name = "class"
  · simp [h₁]
  by_cases h₂ : name = "style"
  · simp [h₂]
  by_cases h₃ : name = "fill"
  · subst h₃
    simp [h₁, h₂]
    split
    · simp
    · repeat' split
      all_goals simp
  · simp only [h₁, h₂, h₃, if_false, false_and]
    split
    · simp_all
    · next h => repeat' split
                all_goals simp_all

end AttributeRule

/-- The statement that assigns a text to a member of the builder. -/
def Statement.assign (name value : String) : Statement := ⟨.named name, .text value⟩

/-- The statement of an attribute under a rule. -/
def AttributeRule.apply (strict : Bool) (name value : String) :
    AttributeRule → Noted Statement
  | .classNames => pure (.assign "cls" value)
  | .style => Style.convert value
  | .fillReference => do
    Noted.info ("Keeping paint server reference: " ++ value)
    pure (.assign "fill" value)
  | .namespaced => pure ⟨.attribute name, .text value⟩
  | .geometric => do
    Noted.info ("Converting geometric attribute: " ++ name)
    if name ∈ transformNames then
      let transforms ← Transform.readList strict value
      pure (.assign name (Transform.listText transforms))
    else pure (.assign name value)
  | .identifier => pure (.assign "idAttr" value)
  | .stopColor => pure (.assign "stopColor" value)
  | .default => pure (.assign name value)

/-- The statement of an attribute. -/
def convertAttribute (strict : Bool) (name value : String) : Noted Statement := do
  Noted.info ("Processing attribute: " ++ name)
  (AttributeRule.find name value).apply strict name value

/-- The statements of attributes, in order. -/
def convertAttributes (strict : Bool) (attributes : List (String × String)) :
    Noted (List Statement) :=
  attributes.mapM fun (name, value) => convertAttribute strict name value

end SvgBuilder
