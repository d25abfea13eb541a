import SvgBuilder.Markup.Fault
import SvgBuilder.Markup.Problem

/-!
# The progress of reading

Reading a document either ends with a fault or goes on with what is known so far: the problems
that have been noted, how entities have been used, how much text the references stand for, and
the identifiers.

What references stand for is bounded, so that a small document cannot hold a text of any size.
Every reference costs a little beside the size of its text.

## Main results

* `run_charge_of_le`: a reference within the bound is only counted.
-/

namespace SvgBuilder.Markup

/-- How the text of an entity is taken. -/
inductive EntityUse where
  /-- As content between tags, where every line end is a line feed. -/
  | content
  /-- As a part of an attribute value, where the text stays as it is. -/
  | value
  deriving DecidableEq, Repr

/-- What is known about a document that is being read. -/
structure Progress where
  log : Log
  /-- The entities that have been referred to, and how their texts are taken. -/
  uses : List (String × EntityUse)
  /-- The sizes of what those entities stand for. -/
  sizes : List (String × Nat)
  /-- The entities that may stand in attribute values. -/
  values : List String
  /-- The size of what the references stand for so far. -/
  expanded : Nat
  /-- The bound of that. -/
  allowed : Nat
  /-- The identifiers of elements. -/
  identifiers : List String

/-- A step of reading. -/
abbrev Reading := StateT Progress (Except Fault)

/-- The text that references may always stand for. -/
def freeExpansion : Nat := 1000000

/-- The bound for a document of a size: references may stand for five times of it. -/
def allowedExpansion (size : Nat) : Nat := max freeExpansion (5 * size + 4)

/-- The beginning of a document of a size. -/
def Progress.start (size : Nat) : Progress := ⟨[], [], [], [], 0, allowedExpansion size, []⟩

/-- Notes a problem. -/
def note (problem : Problem) : Reading Unit :=
  modify fun s => { s with log := s.log.note problem }

/-- What a reference costs beside the size of its text. -/
def referenceCost : Nat := 20

/-- Counts a reference to a text of a size. -/
def charge (size : Nat) : Reading Unit := do
  let s ← get
  let expanded := s.expanded + size + referenceCost
  if s.allowed < expanded then throw .expansion
  set { s with expanded := expanded }

/-- The size of a text: the number of its bytes. -/
def textSize (s : List Char) : Nat := s.foldl (fun n c => n + c.utf8Size) 0

theorem run_charge_of_le {size : Nat} {s : Progress}
    (h : s.expanded + size + referenceCost ≤ s.allowed) :
    (charge size).run s =
      .ok ((), { s with expanded := s.expanded + size + referenceCost }) := by
  have h' : ¬ s.allowed < s.expanded + size + referenceCost := Nat.not_lt.2 h
  change (if s.allowed < s.expanded + size + referenceCost then _ else _ : Reading Unit).run s = _
  rw [if_neg h']
  rfl

end SvgBuilder.Markup
