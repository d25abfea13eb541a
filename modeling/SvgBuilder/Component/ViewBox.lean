import SvgBuilder.Diagnostic
import SvgBuilder.Markup.Node
import SvgBuilder.Text.Blank

/-!
# View boxes

The view box of a document is the one its root states.  If there is none it begins at the origin
and has the width and the height of the root, and if one of these is missing too that is reported.

## Main results

* `viewBox_of_attribute`: a view box that is stated is taken.
-/

namespace SvgBuilder

open SvgBuilder.Markup SvgBuilder.Text

/-- The value of an attribute that is there and not empty. -/
def Markup.Element.nonEmpty? (e : Element) (name : String) : Option String :=
  (e.attribute? name).filter (· ≠ "")

/-- The view box of a document, empty if there is none. -/
def viewBox (root : Element) : Noted String :=
  match root.nonEmpty? "viewBox" with
  | some box => pure (trimmed box)
  | none =>
    match root.nonEmpty? "width", root.nonEmpty? "height" with
    | some width, some height => do
      Noted.info "Computing viewBox from width and height"
      pure ("0 0 " ++ trimmed width ++ " " ++ trimmed height)
    | _, _ => do
      Noted.warning "No viewBox attribute found, this may affect scaling"
      pure ""

theorem viewBox_of_attribute {root : Element} {box : String}
    (h : root.nonEmpty? "viewBox" = some box) : viewBox root = pure (trimmed box) := by
  simp [viewBox, h]

end SvgBuilder
