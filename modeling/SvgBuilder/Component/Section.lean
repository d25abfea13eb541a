import SvgBuilder.Component.SettingsFault
import SvgBuilder.Text.Order

/-!
# Sections

Settings stand in sections, which are the entries of a mapping.  A section that is missing or empty
has no entries.  Other sections than the known ones are refused by their names; the message puts
these in order, which only names of one kind have.

## Main definitions

* `checkSections`: refuses sections that are not known.
* `sectionEntries`: the entries of a section.
-/

namespace SvgBuilder

open SvgBuilder.Number SvgBuilder.Text SvgBuilder.Yaml

/-- The sections that there are. -/
def knownSections : List String := ["target", "component", "transform", "validate"]

/-- Whether a key names one of the known sections. -/
def isKnownSection : Value → Bool
  | .text s => s ∈ knownSections
  | _ => false

/-! ## Unknown sections -/

/-- The text that a key is. -/
def keyText? : Value → Option CodeText
  | .text s => some s
  | .codes cs => some ⟨cs⟩
  | _ => none

/-- Keys in the order in which they are compared: numbers, other values and texts. -/
def keysInOrder (keys : List Value) : List Value :=
  let numbers := keys.filter fun key => key.ratio?.isSome
  let texts := keys.filter fun key => (keyText? key).isSome
  let others := keys.filter fun key => key.ratio?.isNone && (keyText? key).isNone
  Value.ascending numbers ++ others ++ texts

/-- Whether two keys have an order. -/
def areOrdered (a b : Value) : Bool :=
  (a.ratio?.isSome && b.ratio?.isSome) || a.typeName = b.typeName

/-- The first two neighbours that have no order. -/
def firstUnordered? : List Value → Option (Value × Value)
  | a :: b :: keys => if areOrdered a b then firstUnordered? (b :: keys) else some (a, b)
  | _ => none

/-- What is wrong with the names of unknown sections. -/
def unknownFault (keys : List Value) : SettingsFault :=
  match keys.mapM keyText? with
  | some names => .unknownSections (sorted names)
  | none =>
    let keys := keysInOrder keys
    match firstUnordered? keys with
    | some (a, b) => .unorderedSections a.typeName b.typeName
    | none => .unnamedSection ((keys.head?.map Value.typeName).getD "NoneType")

/-- Refuses sections that are not known. -/
def checkSections (entries : List (Value × Value)) : Except SettingsFault Unit :=
  match (entries.map (·.1)).filter (!isKnownSection ·) with
  | [] => .ok ()
  | keys => .error (unknownFault keys)

/-! ## Entries -/

/-- The entries of a section. -/
def sectionEntries (shared : Collections) (entries : List (Value × Value)) (name : String) :
    Except SettingsFault (List (Value × Value)) :=
  match ((Value.get? entries name).map (Value.opened shared)).filter Value.isSubstantial with
  | none => .ok []
  | some (.mapping own) => .ok own
  | some _ => .error (.wrongSection name)

/-- What is read from the value of a key, and the default if the key is missing. -/
def optionally {α : Type} (entries : List (Value × Value)) (key : String) (default : α)
    (read : Value → Except SettingsFault α) : Except SettingsFault α :=
  match Value.get? entries key with
  | none => .ok default
  | some value => read value

end SvgBuilder
