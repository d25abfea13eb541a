import SvgBuilder.Component.Assembly
import SvgBuilder.Proofs.Diagnostic

/-!
# The text of a module

A module is the call that builds the root with text before it and behind it.  Neither of these
depends on what the elements of the document become, except for the constants of its colors.

## Main results

* `value_assemble`: the call of the root in its module.
-/

namespace SvgBuilder

open SvgBuilder.Markup SvgBuilder.Text

theorem keeps_rootOmission : rootOmission.keeps = (!isDefinitions ·) := by
  funext node
  cases node <;> simp [Omission.keeps, rootOmission, isDefinitions]

theorem joined_cons (sep first : String) (rest : List String) :
    joined sep (first :: rest) = first ++ String.join (rest.map (sep ++ ·)) := by
  induction rest generalizing first with
  | nil => simp [joined]
  | cons next rest ih =>
      have hNext := ih next
      rw [joined] at hNext ⊢
      rw [String.intercalate_cons_cons, hNext]
      simp [String.append_assoc]

theorem joined_append (sep first : String) (more rest : List String) :
    joined sep (first :: more ++ rest) =
      joined sep (first :: more) ++ String.join (rest.map (sep ++ ·)) := by
  rw [List.cons_append, joined_cons, joined_cons, List.map_append, String.join_append,
    String.append_assoc]

/-- The lines of a module before the call of the root. -/
def openingLines (settings : Settings) (moduleName sourceName : String) (root : Element) :
    List String := [
  header settings, "", documentation root,
  "object " ++ moduleName ++ ":",
  "  // Generated from SVG file: " ++ sourceName,
  "  def apply(",
  "    size: Int = " ++ Number.integerText settings.defaultSize ++ ",",
  "    className: Option[String] = None,",
  "    customAttributes: Seq[Modifier[SvgElement]] = Seq.empty",
  "  ): SvgElement ="]

/-- The text of a module before the call of the root. -/
def opening (settings : Settings) (moduleName sourceName : String) (root : Element) : String :=
  joined "\n" (openingLines settings moduleName sourceName root) ++ "\n    "

/-- The text of a module behind the call of the root. -/
def closing (settings : Settings) (root : Element) : String :=
  String.join ((colorLines settings root).map ("\n" ++ ·)) ++ "\n"

/-- The call of the root in its module. -/
theorem value_assemble (settings : Settings) (moduleName sourceName : String) (root : Element) :
    (assemble settings moduleName sourceName root).value =
      opening settings moduleName sourceName root ++
        rootCall (rootItems settings root).value ++ closing settings root := by
  have hLines : [header settings, "", documentation root] ++
      objectLines moduleName sourceName settings (rootItems settings root).value ++
        colorLines settings root =
      openingLines settings moduleName sourceName root ++
        ("    " ++ rootCall (rootItems settings root).value) :: colorLines settings root := rfl
  have hMargin : "\n    " = "\n" ++ "    " := by decide
  rw [assemble, Noted.value_bind, Noted.value_pure, hLines, openingLines, joined_append, opening,
    openingLines, closing, List.map_cons, String.join_cons, hMargin]
  simp only [String.append_assoc]

end SvgBuilder
