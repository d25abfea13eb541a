import SvgBuilder.Diagnostic
import SvgBuilder.Number.Reading
import SvgBuilder.Transform.Basic
import SvgBuilder.Transform.Call

/-!
# Reading transform lists

The arguments of a call stand between commas; a piece between two commas may hold several numbers
with blanks between them.  An empty piece, a token that is no number and a number that is not
finite all count as zero and are reported.  A call that is no supported transform is replaced by
a translation by zero, or left out and reported as an error when the reader is strict.

## Main results

* `readNumber_isFinite`: every argument is finite.
-/

namespace SvgBuilder.Transform

open SvgBuilder.Number SvgBuilder.Text

/-- Reads one argument. -/
def readNumber (token : List Char) : Noted Double :=
  match (readDouble? token).filter Double.isFinite with
  | some x => pure x
  | none => do
    Noted.warning ("Invalid transform argument '" ++ String.ofList token ++ "', using 0")
    pure .zero

/-- Reads the arguments of a piece between commas. -/
def readPiece (piece : List Char) : Noted (List Double) :=
  match words piece with
  | [] => do
    Noted.warning "Missing transform argument, using 0"
    pure [.zero]
  | tokens => tokens.mapM readNumber

/-- Reads the arguments of a call. -/
def readArguments (s : List Char) : Noted (List Double) := do
  let pieces ← (splitAt ',' s).mapM readPiece
  pure pieces.flatten

/-- The transforms that a call stands for: one, or none if it is not supported and the reader is
strict. -/
def ofCall (strict : Bool) (call : Call) : Noted (List Transform) := do
  let arguments ← readArguments call.arguments
  match ofCall? (String.ofList call.name) arguments with
  | some t => pure [t]
  | none =>
    let unsupported := "Unsupported transform function: " ++ String.ofList call.text
    if strict then
      Noted.error unsupported
      pure []
    else
      Noted.warning (unsupported ++ ", substituting translate(0)")
      pure [placeholder]

/-- Reads a transform list. -/
def readList (strict : Bool) (s : String) : Noted (List Transform) := do
  let parts ← (calls s.toList).mapM (ofCall strict)
  pure parts.flatten

theorem readNumber_isFinite (token : List Char) : (readNumber token).value.isFinite = true := by
  unfold readNumber
  split
  · next x h => exact (Option.filter_eq_some_iff.1 h).2
  · rfl

end SvgBuilder.Transform
