import SvgBuilder.Text.Line
import SvgBuilder.Text.Split

/-!
# Line comments

A text is kept as comments of two slashes, one for each of its lines.  The blanks at both ends of
the text are dropped, and so are those that a comment would end with.  An empty text still leaves
one empty comment.

## Main results

* `commentLines_ne_nil`: there is at least one comment.
-/

namespace SvgBuilder

open SvgBuilder.Text

/-- The lines that are put into comments. -/
def commentLines (s : String) : List (List Char) :=
  match lines (trim s.toList) with
  | [] => [[]]
  | ls => ls

/-- One line as a comment. -/
def commentLine (line : List Char) : String :=
  String.ofList (trimEnd ('/' :: '/' :: ' ' :: line))

/-- A text as comments, one to a line. -/
def lineComment (s : String) : String := joined "\n" ((commentLines s).map commentLine)

theorem commentLines_ne_nil (s : String) : commentLines s ≠ [] := by
  unfold commentLines
  split <;> simp_all

end SvgBuilder
