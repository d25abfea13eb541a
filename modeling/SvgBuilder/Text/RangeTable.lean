/-!
# Sets of characters given by ranges

The properties of characters that this library needs are unions of ranges of code points.  A
`RangeTable` lists those ranges in ascending order, and `RangeTable.has` tests membership.
`CaseRun` does the same for maps between letters: a run of code points, a fixed distance apart,
that are all moved by one distance.

## Main definitions

* `RangeTable.has`: whether a code point is in a set.
* `CaseRun.imageIn`: what a code point is mapped to.
-/

namespace SvgBuilder.Text

/-- Ranges of code points, both ends included. -/
abbrev RangeTable := List (Nat × Nat)

namespace RangeTable

/-- Whether a code point lies in one of the ranges. -/
def has (table : RangeTable) (code : Nat) : Bool :=
  table.any fun (first, last) => first ≤ code && code ≤ last

end RangeTable

/-- Code points `first`, `first + step`, … up to `last`, the first of which is mapped to `target`
and the others by the same distance. -/
structure CaseRun where
  first : Nat
  last : Nat
  step : Nat
  target : Nat

namespace CaseRun

/-- Where the run moves a code point, if it holds it. -/
def image? (run : CaseRun) (code : Nat) : Option Nat :=
  if run.first ≤ code ∧ code ≤ run.last ∧ (code - run.first) % run.step = 0 then
    some (run.target + (code - run.first))
  else none

/-- The image of a code point under the first run that holds it, and itself if none does. -/
def imageIn (runs : List CaseRun) (code : Nat) : Nat :=
  (runs.findSome? (image? · code)).getD code

end CaseRun

end SvgBuilder.Text
