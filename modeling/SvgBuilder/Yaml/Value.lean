import SvgBuilder.Number.Shortest
import SvgBuilder.OrderedMap
import SvgBuilder.Text.CodeText
import SvgBuilder.Text.Split
import SvgBuilder.Yaml.Timestamp

/-!
# Values

What a text of the language holds.  The collections of a text have numbers, and a value that is one
of them is known by its number; what it holds stands in a table.  So a collection may be shared,
and may hold itself.

The members of a set have no order of their own: numbers are put in ascending order.

A value has a text, which is what it is used as, and it is shown in messages: texts in quotes,
lists in brackets, mappings in braces, and three points for a collection inside itself.

## Main definitions

* `Value.opened`: what a collection that is known by its number holds.
* `Value.sameKey`: whether two values are one key.
-/

namespace SvgBuilder.Yaml

open SvgBuilder.Number SvgBuilder.Text

/-- A value. -/
inductive Value where
  | null
  | truth (b : Bool)
  | integer (i : Int)
  | float (x : Double)
  /-- What is no number, by the node it comes from if it is not the one that has a name. -/
  | nan (origin : Option Nat)
  | text (s : String)
  /-- A text of code points of which some are no characters. -/
  | codes (cs : List Nat)
  | bytes (bytes : List UInt8)
  | date (d : Date)
  | moment (d : Date) (t : Clock)
  | list (items : List Value)
  /-- An entry of a list of pairs. -/
  | pair (key value : Value)
  | set (items : List Value)
  | mapping (entries : List (Value × Value))
  /-- A collection by its number. -/
  | numbered (number : Nat)

/-- What the collections of a text hold, by their numbers. -/
abbrev Collections := Array Value

namespace Value

/-- A value, or what a collection holds if the value is known by its number. -/
def opened (shared : Collections) : Value → Value
  | .numbered n => shared.getD n .null
  | v => v

/-! ## Keys -/

/-- The integer that a number is, if it is one. -/
def integer? : Value → Option Int
  | .truth b => some (if b then 1 else 0)
  | .integer i => some i
  | .float (.finite negative rank) =>
    if Double.isIntegral rank then some (Double.withSign negative (Double.integerPart rank))
    else none
  | _ => none

/-- The numerator and the denominator of a number; there is none under what is infinite. -/
def ratio? : Value → Option (Int × Nat)
  | .truth b => some (if b then 1 else 0, 1)
  | .integer i => some (i, 1)
  | .float (.finite negative rank) => some (Double.signedFraction negative rank)
  | .float (.infinite negative) => some (Double.withSign negative 1, 0)
  | .float .nan => some (0, 0)
  | .nan _ => some (0, 0)
  | _ => none

/-- Whether a number does not lie above another one. -/
def ratioAtMost (a b : Int × Nat) : Bool := a.1 * b.2 ≤ b.1 * a.2

/-- Values in ascending order if all of them are numbers; others stay as they are. -/
def ascending (values : List Value) : List Value :=
  match values.mapM fun v => v.ratio?.map fun ratio => (ratio, v) with
  | some numbers => (numbers.mergeSort fun a b => ratioAtMost a.1 b.1).map (·.2)
  | none => values

/-- Whether two values are the same key.  Numbers are the same if they are equal. -/
def sameKey (a b : Value) : Bool :=
  match a, b with
  | .text s, .text t => s = t
  | .null, .null => true
  | .float (.finite m r), .float (.finite n s) => r = s && (m = n || r.val = 0)
  | .float (.infinite m), .float (.infinite n) => m = n
  | .nan m, .nan n => m = n
  | .codes s, .codes t => s = t
  | .bytes s, .bytes t => s = t
  | .date d, .date e => d = e
  | .moment d t, .moment e u => d = e && t = u
  | a, b =>
    match a.integer?, b.integer? with
    | some i, some j => i = j
    | _, _ => false

instance : BEq Value := ⟨sameKey⟩

/-- The value of a key that is a text. -/
def get? (entries : List (Value × Value)) (key : String) : Option Value :=
  entries.lookup (.text key)

/-! ## Text -/

/-- A byte as it is shown between the given quotes. -/
def shownByte (quote : Char) (b : UInt8) : List Char :=
  let c := Char.ofNat b.toNat
  if c = quote ∨ c = '\\' then ['\\', c]
  else if c = '\n' then ['\\', 'n']
  else if c = '\r' then ['\\', 'r']
  else if c = '\t' then ['\\', 't']
  else if 32 ≤ b.toNat ∧ b.toNat < 127 then [c]
  else codeEscape b.toNat

/-- Bytes as they are shown in messages. -/
def shownBytes (bytes : List UInt8) : String :=
  let quote := quoteFor (bytes.map fun b => Char.ofNat b.toNat)
  String.ofList ('b' :: quote :: bytes.flatMap (shownByte quote) ++ [quote])

/-- A truth value as it is shown. -/
def truthText (b : Bool) : String := if b then "True" else "False"

/-- What stands for a collection inside itself. -/
def ellipsis : Value → String
  | .list _ => "[...]"
  | .pair _ _ => "(...)"
  | .set _ => "set(...)"
  | _ => "\x7b...\x7d"

/-- Parts with commas between them, if all of them can be written. -/
def enclosed (opening closing : String) (parts : Option (List String)) : Option String :=
  parts.map fun parts => opening ++ joined ", " parts ++ closing

mutual

/-- A value as it is shown in messages, unless it holds an integer that cannot be written.
`refer` shows the collection of a number. -/
def shownWith (refer : Nat → Option String) : Value → Option String
  | .null => some "None"
  | .truth b => some (truthText b)
  | .integer i => writtenInteger? i
  | .float x => some x.text
  | .nan _ => some Double.nan.text
  | .text s => some (quoted s)
  | .codes cs => some (quotedCodes cs)
  | .bytes bs => some (shownBytes bs)
  | .date d => some d.shown
  | .moment d t => some (momentShown d t)
  | .list items => enclosed "[" "]" (shownItems refer items)
  | .pair key value => do
    let key ← shownWith refer key
    let value ← shownWith refer value
    pure ("(" ++ key ++ ", " ++ value ++ ")")
  | .set items =>
    if items.isEmpty then some "set()" else enclosed "\x7b" "\x7d" (shownItems refer items)
  | .mapping entries => enclosed "\x7b" "\x7d" (shownEntries refer entries)
  | .numbered n => refer n

/-- Values as they are shown in messages. -/
def shownItems (refer : Nat → Option String) : List Value → Option (List String)
  | [] => some []
  | item :: items => do
    let first ← shownWith refer item
    let rest ← shownItems refer items
    pure (first :: rest)

/-- Entries as they are shown in messages. -/
def shownEntries (refer : Nat → Option String) : List (Value × Value) → Option (List String)
  | [] => some []
  | entry :: entries => do
    let first ← shownEntry refer entry
    let rest ← shownEntries refer entries
    pure (first :: rest)

/-- An entry as it is shown in messages. -/
def shownEntry (refer : Nat → Option String) : Value × Value → Option String
  | (key, value) => do
    let key ← shownWith refer key
    let value ← shownWith refer value
    pure (key ++ ": " ++ value)

end

/-- The collection of a number as it is shown in messages; `around` holds the ones that it stands
in.  The first argument bounds how many there are. -/
def shownNumbered (shared : Collections) : Nat → List Nat → Nat → Option String
  | 0, _, _ => none
  | more + 1, around, n =>
    let v := shared.getD n .null
    if n ∈ around then some v.ellipsis
    else v.shownWith (shownNumbered shared more (n :: around))

/-- A value as it is shown in messages. -/
def shown? (shared : Collections) (v : Value) : Option String :=
  v.shownWith (shownNumbered shared (shared.size + 2) [])

/-- The text that a value is used as. -/
def toText? (shared : Collections) : Value → Option CodeText
  | .text s => some s
  | .codes cs => some ⟨cs⟩
  | .date d => some d.text
  | .moment d t => some (d.text ++ " " ++ t.text : String)
  | v => (v.shown? shared).map CodeText.ofString

/-- Whether a value is neither missing nor false, zero or empty. -/
def isSubstantial : Value → Bool
  | .null => false
  | .truth b => b
  | .integer i => i ≠ 0
  | .float (.finite _ rank) => rank.val ≠ 0
  | .text s => s ≠ ""
  | .codes cs => !cs.isEmpty
  | .bytes bs => !bs.isEmpty
  | .list items => !items.isEmpty
  | .set items => !items.isEmpty
  | .mapping entries => !entries.isEmpty
  | _ => true

/-- The name of what a value is. -/
def typeName : Value → String
  | .null => "NoneType"
  | .truth _ => "bool"
  | .integer _ => "int"
  | .float _ => "float"
  | .nan _ => "float"
  | .text _ => "str"
  | .codes _ => "str"
  | .bytes _ => "bytes"
  | .date _ => "datetime.date"
  | .moment _ _ => "datetime.datetime"
  | .list _ => "list"
  | .pair _ _ => "tuple"
  | .set _ => "set"
  | .mapping _ => "dict"
  | .numbered _ => "dict"

end Value

end SvgBuilder.Yaml
