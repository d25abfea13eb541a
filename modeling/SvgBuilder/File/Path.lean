import SvgBuilder.Text.CodeText
import SvgBuilder.Text.Split

/-!
# Paths

A path is an optional root and the names on the way.  Empty names and single points are dropped
when a path is read; two points are kept.  A root of exactly two slashes is kept apart from a root
of one, which three and more slashes are read as.

## Main definitions

* `Path.read`, `Path.text`: a path from its text, and its text.
* `Path.down`: the path that relative names lead to from another one.
-/

namespace SvgBuilder

open SvgBuilder.Text

/-- A path. -/
structure Path where
  /-- Nothing, one slash or two slashes. -/
  root : String
  names : List CodeText
  deriving DecidableEq, Repr

namespace Path

/-- The root that a path with this many slashes in front has. -/
def rootOf (slashes : Nat) : String :=
  if slashes = 0 then "" else if slashes = 2 then "//" else "/"

/-- Whether a piece of a path counts as a name. -/
def isName (name : CodeText) : Bool := name ≠ "" && name ≠ "."

/-- The names in a text. -/
def namesOf (s : CodeText) : List CodeText :=
  ((splitAt '/'.toNat s.codes).map CodeText.mk).filter isName

/-- Reads a path. -/
def read (s : CodeText) : Path :=
  ⟨rootOf (s.codes.takeWhile (· = '/'.toNat)).length, namesOf s⟩

/-- The text of a path. -/
def text (p : Path) : CodeText :=
  let s := p.root ++ CodeText.joined "/" p.names
  if s = "" then "." else s

/-- The last name of a path, empty if there is none. -/
def name (p : Path) : CodeText := p.names.getLastD ""

/-- The path that relative names lead to from here. -/
def down (p : Path) (s : CodeText) : Path := ⟨p.root, p.names ++ namesOf s⟩

theorem down_names (p : Path) (s : CodeText) : (p.down s).names = p.names ++ namesOf s := rfl

end Path

end SvgBuilder
