import SvgBuilder.Text.Search
import SvgBuilder.Text.Word
import SvgBuilder.Text.Blank

/-!
# Names in a text

Names of elements and attributes are found in a text without reading it as a document or as a
module.  An element is named behind the beginning of a tag, or by a builder call; an attribute
before an equals sign and a quote, by a statement of the builder, or by the builder method for
other attributes.  A pattern looks at one place of the text and at the character before it.

## Main definitions

* `findings`: the names that a pattern finds in a text.
* `elementPattern`, `attributePattern`: the patterns for names of elements and of attributes.
-/

namespace SvgBuilder.Comparison

open SvgBuilder.Text

/-- A name that is found at a place, and how many characters are passed there. -/
structure Finding where
  name : List Char
  width : Nat
  deriving DecidableEq, Repr

/-- Looks for a name at a place, given the character before it. -/
abbrev Pattern := Option Char → List Char → Option Finding

/-- The names that a pattern finds from left to right.  `skip` counts the characters that belong
to the finding before. -/
def findingsFrom (pattern : Pattern) (before : Option Char) (skip : Nat) :
    List Char → List (List Char)
  | [] => []
  | c :: s =>
    match skip with
    | skip + 1 => findingsFrom pattern (some c) skip s
    | 0 =>
      match pattern before (c :: s) with
      | some f => f.name :: findingsFrom pattern (some c) (f.width - 1) s
      | none => findingsFrom pattern (some c) 0 s

/-- The names that a pattern finds in a text. -/
def findings (pattern : Pattern) (s : List Char) : List (List Char) :=
  findingsFrom pattern none 0 s

/-! ## Names -/

/-- What a name begins with. -/
def isInitial (c : Char) : Bool := c.isAlpha || c = '_'

/-- What a name of a tag goes on with. -/
def isTagChar (c : Char) : Bool := isWord c || c = '.' || c = '-'

/-- What a name of an attribute goes on with. -/
def isAttributeChar (c : Char) : Bool := isTagChar c || c = ':'

/-- What a name of the builder goes on with. -/
def isMemberChar (c : Char) : Bool := isWord c || c = '-'

/-- The name that a text begins with, and the text behind it. -/
def nameAt? (goesOn : Char → Bool) : List Char → Option (List Char × List Char)
  | [] => none
  | c :: s =>
    if isInitial c then some (c :: s.takeWhile goesOn, s.dropWhile goesOn) else none

/-- Whether a word may begin behind the character. -/
def isWordStart (before : Option Char) : Bool := !before.any isWord

/-! ## Elements -/

/-- Whether the name of a tag may end before a text. -/
def endsTagName (s : List Char) : Bool :=
  s.head?.any fun c => isBlank c || c = '/' || c = '>'

/-- A name of a tag, behind its prefix if it has one. -/
def tagName? : Pattern := fun _ s =>
  match (behind? "<" s).bind (nameAt? isTagChar) with
  | some (label, ':' :: t) =>
    match nameAt? isTagChar t with
    | some (name, rest) =>
      if endsTagName rest then some ⟨name, label.length + name.length + 2⟩ else none
    | none => none
  | some (name, rest) => if endsTagName rest then some ⟨name, name.length + 1⟩ else none
  | none => none

/-- The text behind the name of the builder. -/
def behindBuilder? (before : Option Char) (s : List Char) : Option (List Char) :=
  if isWordStart before then behind? "svg." s else none

/-- A name of a builder call. -/
def callName? : Pattern := fun before s =>
  match behindBuilder? before s with
  | none => none
  | some t =>
    if (behind? "svgAttr(" t).isSome then none
    else
      match nameAt? isMemberChar t with
      | some (name, '(' :: _) => some ⟨name, name.length + 5⟩
      | _ => none

/-- A name of an element. -/
def elementPattern : Pattern := fun before s =>
  (tagName? before s).orElse fun _ => callName? before s

/-! ## Attributes -/

/-- A name before an equals sign and a quote. -/
def markupName? : Pattern := fun before s =>
  if before.any isAttributeChar then none
  else
    match nameAt? isAttributeChar s with
    | some (name, '=' :: quote :: _) =>
      if quote = '\x22' ∨ quote = '\x27' then some ⟨name, name.length + 2⟩ else none
    | _ => none

/-- A name of a statement. -/
def statementName? : Pattern := fun before s =>
  match (behindBuilder? before s).bind (nameAt? isMemberChar) with
  | none => none
  | some (name, rest) =>
    match rest.dropWhile isBlank with
    | ':' :: '=' :: _ =>
      some ⟨name, name.length + (rest.takeWhile isBlank).length + 6⟩
    | _ => none

/-- A name that is given to the builder method for other attributes. -/
def quotedName? : Pattern := fun before s =>
  if isWordStart before then
    match (behind? "svgAttr(\x22" s).bind (upTo ['\x22']) with
    | some (name, _) => if name.isEmpty then none else some ⟨name, name.length + 10⟩
    | none => none
  else none

/-- A name of an attribute. -/
def attributePattern : Pattern := fun before s =>
  ((markupName? before s).orElse fun _ => statementName? before s).orElse
    fun _ => quotedName? before s

end SvgBuilder.Comparison
