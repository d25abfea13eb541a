import SvgBuilder.Markup.Draft
import SvgBuilder.Markup.Entity
import SvgBuilder.Text.LineEnd

/-!
# What entities stand for in attribute values

An attribute value may refer to entities that are texts without tags, and whose texts do so in
turn.  Every entity is looked into once, when it is met first.  What it stands for is a little
different when it has been met as content before: then its line ends are line feeds.

The namespace of a declaration is put together on the spot: every blank in it counts as a space,
and looking into an entity for it does not count as meeting the entity.

## Main definitions

* `checkValue`, `valueText`: what is wrong with the references in a value, and what it stands for.
-/

namespace SvgBuilder.Markup

open SvgBuilder.Text

/-! ## Meeting entities -/

/-- What a reference refers to.  `inValue` says whether it stands in an attribute value. -/
def Declarations.lookUp (d : Declarations) (inValue : Bool) (name : String) :
    Reading (Option Entity) :=
  match d.find? name with
  | some .unparsed => throw .reference
  | some .external => if inValue then throw .reference else pure (some .external)
  | some (.internal text) => pure (some (.internal text))
  | none => do
    d.missing
    pure none

/-- The name of the entity that a piece is. -/
def Piece.entity? : Piece → Option String
  | .char _ => none
  | .entity name => some name

/-- Remembers how an entity is used, unless it has been used before. -/
def settle (name : String) (use : EntityUse) : Reading Unit :=
  modify fun s =>
    if (s.uses.lookup name).isSome then s else { s with uses := (name, use) :: s.uses }

/-- Remembers the size of what an entity stands for. -/
def recordSize (name : String) (size : Nat) : Reading Unit :=
  modify fun s =>
    if (s.sizes.lookup name).isSome then s else { s with sizes := (name, size) :: s.sizes }

/-- The size of what an entity stands for. -/
def sizeOf (name : String) : Reading Nat := do pure (((← get).sizes.lookup name).getD 0)

/-! ## Entities in values -/

/-- Looks into what a reference in a value refers to, and gives what it adds to the size of the
text around it.  `check` looks into the text of an entity. -/
def checkReference (d : Declarations) (check : String → List Char → Reading Unit)
    (name : String) : Reading (Option Nat) := do
  match ← d.lookUp true name with
  | some (.internal text) => do
    if name ∉ (← get).values then check name text
    pure (some (← sizeOf name))
  | _ => pure none

/-- Looks into the text of an entity that stands in a value.  The argument is how many such texts
may be nested. -/
def checkEntity (d : Declarations) : Nat → String → List Char → Reading Unit
  | 0, _, _ => throw .recursion
  | levels + 1, name, text => do
    if '<' ∈ text then throw .reference
    let pieces ← textPieces text
    let nested ← (pieces.filterMap Piece.entity?).mapM (checkReference d (checkEntity d levels))
    let sizes := nested.filterMap fun size? => size?.map (· + referenceCost)
    recordSize name (textSize text + sizes.sum)
    settle name .value
    modify fun s => { s with values := name :: s.values }

/-- Looks into the entities of an attribute value. -/
def checkValue (d : Declarations) (levels : Nat) (value : List Piece) : Reading Unit :=
  (value.filterMap Piece.entity?).forM fun name => do
    match ← checkReference d (checkEntity d levels) name with
    | some size => charge size
    | none => pure ()

/-- The text of an attribute value, whose entities have been looked into.  The second argument
bounds how deeply their texts are nested. -/
def valueText (d : Declarations) (uses : List (String × EntityUse)) :
    Nat → List Piece → List Char
  | 0, _ => []
  | depth + 1, pieces => pieces.flatMap fun
    | .char c => [c]
    | .entity name =>
      match d.find? name with
      | some (.internal text) =>
        let text := if uses.lookup name = some .content then normalized text else text
        match textPieces text with
        | .ok pieces => valueText d uses depth pieces
        | .error _ => []
      | _ => []

/-! ## Entities in the namespaces of declarations -/

/-- The text of pieces.  `expand` gives the text of an entity. -/
def expandPieces (d : Declarations) (expand : List Char → Reading (List Char))
    (pieces : List Piece) : Reading (List Char) := do
  let parts ← pieces.mapM fun
    | .char c => pure [c]
    | .entity name => do
      match ← d.lookUp true name with
      | some (.internal text) => expand text
      | _ => pure []
  pure parts.flatten

/-- What the text of an entity stands for in a namespace. -/
def expandEntity (d : Declarations) : Nat → List Char → Reading (List Char)
  | 0, _ => throw .recursion
  | levels + 1, text => do
    charge (textSize text)
    if '<' ∈ text then throw .reference
    let pieces ← textPieces (text.map valueChar)
    expandPieces d (expandEntity d levels) pieces

end SvgBuilder.Markup
