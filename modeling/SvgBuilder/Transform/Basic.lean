import SvgBuilder.Number.Shortest
import SvgBuilder.Text.Split

/-!
# Transforms

The six functions of a transform list, with the arguments that are optional, and the notation
that a list is written in: arguments between commas, calls between spaces.

## Main results

* `Transform.arguments_ne_nil`: every transform has an argument.
-/

namespace SvgBuilder

open SvgBuilder.Number SvgBuilder.Text

/-- A function of a transform list. -/
inductive Transform where
  | matrix (a b c d e f : Double)
  | translate (x : Double) (y : Option Double)
  | scale (x : Double) (y : Option Double)
  /-- A rotation by an angle, about a centre if both its coordinates are there. -/
  | rotate (angle : Double) (cx cy : Option Double)
  | skewX (angle : Double)
  | skewY (angle : Double)
  deriving DecidableEq, Repr

namespace Transform

/-- The name of the function. -/
def functionName : Transform → String
  | .matrix .. => "matrix"
  | .translate .. => "translate"
  | .scale .. => "scale"
  | .rotate .. => "rotate"
  | .skewX _ => "skewX"
  | .skewY _ => "skewY"

/-- The arguments that are written. -/
def arguments : Transform → List Double
  | .matrix a b c d e f => [a, b, c, d, e, f]
  | .translate x y => x :: y.toList
  | .scale x y => x :: y.toList
  | .rotate angle (some cx) (some cy) => [angle, cx, cy]
  | .rotate angle _ _ => [angle]
  | .skewX angle => [angle]
  | .skewY angle => [angle]

theorem arguments_ne_nil (t : Transform) : t.arguments ≠ [] := by
  unfold arguments
  split <;> simp

/-- The function with that name applied to the arguments, if there is one and they suffice.
Arguments that the function has no use for are passed over. -/
def ofCall? (name : String) : List Double → Option Transform
  | [] => none
  | x :: rest =>
    if name = "matrix" then
      match rest with
      | [b, c, d, e, f] => some (.matrix x b c d e f)
      | _ => none
    else if name = "translate" then some (.translate x rest[0]?)
    else if name = "scale" then some (.scale x rest[0]?)
    else if name = "rotate" then some (.rotate x rest[0]? rest[1]?)
    else if name = "skewX" then some (.skewX x)
    else if name = "skewY" then some (.skewY x)
    else none

/-- What stands for a function that is not supported. -/
def placeholder : Transform := .translate .zero none

/-- The text of one function call. -/
def text (t : Transform) : String :=
  t.functionName ++ "(" ++ joined "," (t.arguments.map Double.plainText) ++ ")"

/-- The text of a transform list. -/
def listText (ts : List Transform) : String := joined " " (ts.map text)

end Transform

end SvgBuilder
