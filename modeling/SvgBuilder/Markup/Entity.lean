import SvgBuilder.Markup.ContentModel
import SvgBuilder.Markup.Reference

/-!
# Document types and entities

A document type declaration may declare entities, each a name for a text.  The text is kept with
its references by number replaced and its references by name left as they are.  Of two
declarations of one name the first one holds.  Entities that lie outside of the document are never
looked at.  Elements and notations are declared once each; nothing else hangs on what is declared
for them, and declarations of attributes are passed over.

Line ends are kept here: they count only where the text of an entity is put in.

## Main definitions

* `Declarations`: what is declared.
* `readDoctype`: reading a document type declaration.
-/

namespace SvgBuilder.Markup

open SvgBuilder.Text

/-- What is declared for the name of an entity. -/
inductive Entity where
  /-- A text. -/
  | internal (text : List Char)
  /-- Something outside of the document. -/
  | external
  /-- Something outside of the document that is no text. -/
  | unparsed
  deriving DecidableEq, Repr

/-- What a document declares. -/
structure Declarations where
  entities : List (String × Entity)
  /-- The entities for use inside the declarations. -/
  parameters : List (String × Entity)
  /-- The names of the elements that are declared. -/
  elements : List String
  /-- The names of the notations that are declared. -/
  notations : List String
  /-- Whether there are declarations outside of the document. -/
  externalSubset : Bool
  /-- Whether an entity is referred to inside the declarations. -/
  parametersUsed : Bool
  /-- Whether the document states that it needs no declarations from outside. -/
  standalone : Bool

namespace Declarations

/-- Nothing declared. -/
def empty (standalone : Bool) : Declarations := ⟨[], [], [], [], false, false, standalone⟩

/-- Whether a name that is not declared here may be declared elsewhere. -/
def mayBeElsewhere (d : Declarations) : Bool :=
  !d.standalone && (d.externalSubset || d.parametersUsed)

/-- The first declaration of an entity. -/
def find? (d : Declarations) (name : String) : Option Entity := d.entities.lookup name

/-- Declares an entity behind those that are there. -/
def declare (d : Declarations) (name : String) (entity : Entity) : Declarations :=
  { d with entities := d.entities ++ [(name, entity)] }

/-- Meets a reference to an entity that is not declared. -/
def missing (d : Declarations) : Reading Unit :=
  if d.mayBeElsewhere then note .undeclaredEntity else throw .reference

end Declarations

/-! ## Identifiers outside of the document -/

/-- The characters of a public identifier. -/
def isPublicChar (c : Char) : Bool :=
  c.isAlphanum || c = ' ' || c = '\n' || c = '\r' || c ∈ "-\x27()+,./:=?;!*#@$_%".toList

/-- Reads an identifier of something outside of the document, if one begins here: where that lies,
and the text behind it. -/
def readExternalId? (s : List Char) : Except Fault (Option (List Char × List Char)) :=
  match behind? "SYSTEM" s with
  | some t => do
    let t ← requireSpace .doctype t
    let found ← readQuoted .doctype t
    pure (some found)
  | none =>
    match behind? "PUBLIC" s with
    | some t => do
      let t ← requireSpace .doctype t
      let (identifier, t) ← readQuoted .doctype t
      if !identifier.all isPublicChar then throw .doctype
      let t ← requireSpace .doctype t
      let found ← readQuoted .doctype t
      pure (some found)
    | none => pure none

/-! ## Entity declarations -/

/-- A text with its references by number replaced.  `pending` is what has been read, in reverse, of
a reference that has begun. -/
def entityText (pending : Option (List Char)) : List Char → Except Fault (List Char)
  | [] =>
    match pending with
    | none => .ok []
    | some _ => .error .reference
  | c :: s =>
    match pending with
    | some name =>
      if c = ';' then do
        let reference ← Reference.read name.reverse
        let rest ← entityText none s
        match reference with
        | .char c => pure (c :: rest)
        | .name _ => pure ('&' :: name.reverse ++ ';' :: rest)
      else entityText (some (c :: name)) s
    | none =>
      if c = '&' then entityText (some []) s
      else do
        let rest ← entityText none s
        pure (c :: rest)

/-- The text that an entity is declared to stand for, and the declarations with it.  It must not
refer to a parameter entity that is declared; a reference to another one cuts it off. -/
def readEntityText (d : Declarations) (value : List Char) :
    Reading (List Char × Declarations) := do
  let text ← entityText none (value.takeWhile (· ≠ '%'))
  match value.dropWhile (· ≠ '%') with
  | [] => pure (text, d)
  | _ :: t => do
    let (name, t) ← readName .reference t
    let _ ← requireChar .reference ';' t
    if (d.parameters.lookup (String.ofList name)).isSome then throw .doctype
    let d := { d with parametersUsed := true }
    d.missing
    pure (text, d)

/-- Reads what is declared for an entity, up to the end of the declaration.  `levels` is how many
more texts of entities may be nested here; a declared text needs one. -/
def readEntityValue (levels : Nat) (d : Declarations) (parameter : Bool) (s : List Char) :
    Reading ((Entity × Declarations) × List Char) := do
  match ← readExternalId? s with
  | some (location, rest) =>
    if '#' ∈ location then throw .doctype
    match behind? "NDATA" (skipSpace rest) with
    | some t =>
      if parameter || !beginsWithSpace rest then throw .doctype
      let t ← requireSpace .doctype t
      let (_, rest) ← readName .doctype t
      pure ((.unparsed, d), rest)
    | none => pure ((.external, d), rest)
  | none =>
    let (value, rest) ← readQuoted .doctype s
    if levels = 0 then throw .recursion
    let (text, d) ← readEntityText d value
    pure ((.internal text, d), rest)

/-- Whether a text is a reference by number to a character whose number has two digits. -/
def refersTo (c : Char) : List Char → Bool
  | ['&', '#', 'x', a, b, ';'] => charOfCode? 16 hexValue? [a, b] = some c
  | ['&', '#', a, b, ';'] => charOfCode? 10 decimalValue? [a, b] = some c
  | _ => false

/-- Whether a predefined entity may be declared to be this. -/
def mayRedeclare (c : Char) : Entity → Bool
  | .internal text => (text = [c] && c ∈ [('>' : Char), '\x27', '\x22']) || refersTo c text
  | _ => false

/-- Declares an entity of which the name may be predefined. -/
def declareEntity (d : Declarations) (name : String) (entity : Entity) :
    Reading Declarations := do
  if (namedChar? name).any (!mayRedeclare · entity) then note .predefinedEntity
  pure (d.declare name entity)

/-- Notes a colon in a name that must not have one. -/
def noteColon (name : List Char) : Reading Unit :=
  if ':' ∈ name then note .colon else pure ()

/-- Reads the declaration of an entity behind its opening. -/
def readEntity (levels : Nat) (d : Declarations) (s : List Char) :
    Reading (Declarations × List Char) := do
  let s ← requireSpace .doctype s
  let (parameter, s) ← match s with
    | '%' :: t => do
      let t ← requireSpace .doctype t
      pure (true, t)
    | _ => pure (false, s)
  let (name, s) ← readName .doctype s
  noteColon name
  let s ← requireSpace .doctype s
  let ((entity, d), s) ← readEntityValue levels d parameter s
  let name := String.ofList name
  let d ←
    if parameter then pure { d with parameters := d.parameters ++ [(name, entity)] }
    else declareEntity d name entity
  let rest ← requireChar .doctype '>' (skipSpace s)
  pure (d, rest)

/-! ## Other declarations -/

/-- Reads the declaration of an element behind its opening. -/
def readElementType (d : Declarations) (s : List Char) :
    Reading (Declarations × List Char) := do
  let s ← requireSpace .doctype s
  let (name, s) ← readName .doctype s
  let s ← requireSpace .doctype s
  let s ← readContentModel s
  let rest ← requireChar .doctype '>' (skipSpace s)
  let name := String.ofList name
  if name ∈ d.elements then note .redeclared
  pure ({ d with elements := name :: d.elements }, rest)

/-- The text behind the identifier of a notation, which may be a public one alone. -/
def readNotationId (s : List Char) : Except Fault (List Char) :=
  match behind? "PUBLIC" s with
  | some t => do
    let (identifier, t) ← readQuoted .doctype (← requireSpace .doctype t)
    if !identifier.all isPublicChar then throw .doctype
    match skipSpace t with
    | '>' :: u => pure ('>' :: u)
    | _ => do
      let (_, rest) ← readQuoted .doctype (← requireSpace .doctype t)
      pure rest
  | none => do
    match ← readExternalId? s with
    | some (_, rest) => pure rest
    | none => throw .doctype

/-- Reads the declaration of a notation behind its opening. -/
def readNotation (d : Declarations) (s : List Char) :
    Reading (Declarations × List Char) := do
  let s ← requireSpace .doctype s
  let (name, s) ← readName .doctype s
  noteColon name
  let s ← requireSpace .doctype s
  let s ← readNotationId s
  let rest ← requireChar .doctype '>' (skipSpace s)
  let name := String.ofList name
  if name ∈ d.notations then note .redeclared
  pure ({ d with notations := name :: d.notations }, rest)

/-- The text behind the end of a declaration; inside quotes the end does not count. -/
def skipDeclaration (quote : Option Char) : List Char → Except Fault (List Char)
  | [] => .error .doctype
  | c :: s =>
    match quote with
    | some q => skipDeclaration (if c = q then none else some q) s
    | none =>
      if c = '>' then .ok s
      else if c = '\x22' ∨ c = '\x27' then skipDeclaration (some c) s
      else if c = '<' then .error .doctype
      else skipDeclaration none s

/-- Passes over the declaration of attributes behind its opening. -/
def skipAttributes (d : Declarations) (s : List Char) :
    Reading (Declarations × List Char) := do
  let s ← requireSpace .doctype s
  let (_, s) ← readName .doctype s
  let rest ← skipDeclaration none s
  pure (d, rest)

/-! ## The declarations inside a document -/

/-- How a declaration is read behind its opening. -/
abbrev DeclarationReader := Declarations → List Char → Reading (Declarations × List Char)

/-- What declarations begin with, and how each is read behind that. -/
def declarationReaders (levels : Nat) : List (String × DeclarationReader) := [
  ("<!ENTITY", readEntity levels), ("<!ELEMENT", readElementType), ("<!NOTATION", readNotation),
  ("<!ATTLIST", skipAttributes)]

/-- Reads a declaration. -/
def readDeclaration (levels : Nat) (d : Declarations) (s : List Char) :
    Reading (Declarations × List Char) :=
  let found := (declarationReaders levels).findSome? fun (opening, read) =>
    (behind? opening s).map (read d)
  found.getD (throw .doctype)

/-- Reads declarations up to a closing bracket, or, in an entity, up to its end.  `expand` reads
the declarations in the text of an entity, `levels` is how many such texts may be nested here, and
`steps` bounds the number of declarations. -/
def readSubset (levels : Nat) (expand : Declarations → List Char → Reading Declarations)
    (bracketed : Bool) : Nat → Declarations → List Char → Reading (Declarations × List Char)
  | 0, _, _ => throw .doctype
  | steps + 1, d, s =>
    match skipSpace s with
    | [] => if bracketed then throw .doctype else pure (d, [])
    | ']' :: rest => if bracketed then pure (d, rest) else throw .doctype
    | '%' :: t => do
      let (name, t) ← readName .doctype t
      let rest ← requireChar .doctype ';' t
      let d := { d with parametersUsed := true }
      let d ← match d.parameters.lookup (String.ofList name) with
        | some (.internal text) => expand d text
        | some _ => pure d
        | none => do
          d.missing
          pure d
      readSubset levels expand bracketed steps d rest
    | s =>
      match behind? "<!--" s with
      | some t => do
        let (_, rest) ← readComment t
        readSubset levels expand bracketed steps d rest
      | none =>
        match behind? "<?" s with
        | some t => do
          let rest ← skipInstruction t
          readSubset levels expand bracketed steps d rest
        | none => do
          let (d, rest) ← readDeclaration levels d s
          readSubset levels expand bracketed steps d rest

/-- How deeply the texts of entities may be nested. -/
def maxEntityDepth : Nat := 19

/-- Reads the declarations in the text of an entity. -/
def expandParameter : Nat → Declarations → List Char → Reading Declarations
  | 0, _, _ => throw .recursion
  | levels + 1, d, text => do
    let (d, _) ← readSubset levels (expandParameter levels) false (text.length + 1) d text
    charge (textSize text)
    pure d

/-- Reads a document type declaration behind its opening. -/
def readDoctype (d : Declarations) (s : List Char) :
    Reading (Declarations × List Char) := do
  let s ← requireSpace .doctype s
  let (_, s) ← readName .doctype s
  let s := skipSpace s
  let external ← readExternalId? s
  let d := { d with externalSubset := external.isSome }
  let s := skipSpace ((external.map (·.2)).getD s)
  match s with
  | '[' :: t =>
    let (d, t) ←
      readSubset maxEntityDepth (expandParameter maxEntityDepth) true (t.length + 1) d t
    let rest ← requireChar .doctype '>' (skipSpace t)
    pure (d, rest)
  | _ =>
    let rest ← requireChar .doctype '>' s
    pure (d, rest)

end SvgBuilder.Markup
