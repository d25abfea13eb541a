import SvgBuilder.Text.CodeText

/-!
# Settings

What can be chosen about the generated modules.
-/

namespace SvgBuilder

open SvgBuilder.Text

/-- The settings of a conversion. -/
structure Settings where
  /-- The extension of the generated files, without its point. -/
  extension : CodeText
  /-- The package of the modules. -/
  package : Option CodeText
  /-- What the modules import. -/
  imports : List CodeText
  /-- The size of an image unless another one is given. -/
  defaultSize : Int
  /-- Whether the colors of an image become constants. -/
  colorConstants : Bool
  /-- Whether transform functions that are not supported are errors. -/
  strictTransforms : Bool
  /-- Whether the module is compared with its document. -/
  validate : Bool
  deriving DecidableEq, Repr

/-- The settings where nothing is chosen. -/
def Settings.default : Settings :=
  { extension := "scala"
    package := none
    imports := ["com.raquo.laminar.api.L.*"]
    defaultSize := 48
    colorConstants := true
    strictTransforms := false
    validate := true }

end SvgBuilder
