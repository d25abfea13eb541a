import SvgBuilder.Text.CodeText
import SvgBuilder.Text.Utf8
import SvgBuilder.Yaml.Fault
import SvgBuilder.Yaml.Value

/-!
# Why settings are refused

A file of settings may hold bytes that are no text, a text that holds no value, or a value that
settings cannot be read from.

## Main definitions

* `SettingsFault.kind`, `SettingsFault.message`: what is wrong, as a kind and in words.
-/

namespace SvgBuilder

open SvgBuilder.Number SvgBuilder.Text SvgBuilder.Yaml

/-- What is wrong with settings. -/
inductive SettingsFault where
  /-- Bytes that are no text: why, from where on, and which. -/
  | encoding (reason : Utf8.Fault) (place : Nat) (bytes : List UInt8)
  /-- The text holds no value. -/
  | text (fault : Yaml.Fault)
  /-- The value is no mapping. -/
  | noMapping
  | unknownSections (names : List CodeText)
  /-- A section whose name is no text, by what it is. -/
  | unnamedSection (typeName : String)
  /-- Two sections whose names have no order, by what they are. -/
  | unorderedSections (first second : String)
  /-- A section that is no mapping. -/
  | wrongSection (name : String)
  | emptyExtension
  | wrongImports
  /-- A size that is no integer, as it is shown. -/
  | wrongSize (shown : String)
  | infiniteSize
  | sizeNotPositive
  /-- A setting that is no truth value, as it is shown. -/
  | wrongFlag (label shown : String)
  /-- An integer of too many digits in a value that is written out. -/
  | longInteger
  deriving DecidableEq, Repr

/-- The kinds of faults that are told apart where settings are read. -/
inductive SettingsFault.Kind where
  /-- What is given cannot be used. -/
  | value
  /-- Values that do not go together. -/
  | type
  /-- A number that is too large. -/
  | overflow
  /-- Bytes that are no text. -/
  | encoding
  /-- The text holds no value. -/
  | text (fault : Yaml.Fault)
  deriving DecidableEq, Repr

/-- What kind of fault is wrong with settings. -/
def SettingsFault.kind : SettingsFault → SettingsFault.Kind
  | .encoding .. => .encoding
  | .text fault => .text fault
  | .infiniteSize => .overflow
  | .unnamedSection _ => .type
  | .unorderedSections .. => .type
  | _ => .value

/-- Why bytes are no text, in words. -/
def encodingReason : Utf8.Fault → String
  | .start => "invalid start byte"
  | .continuation => "invalid continuation byte"
  | .truncated => "unexpected end of data"

/-- Which bytes are no text.  Bytes that the end cuts off are counted by themselves. -/
def encodingPlace (reason : Utf8.Fault) (place : Nat) (bytes : List UInt8) : String :=
  let first := if reason = .truncated then 0 else place
  match bytes with
  | [b] =>
    "byte 0x" ++ String.ofList (hexDigits 2 b.toNat) ++ " in position " ++ integerText first
  | _ =>
    "bytes in position " ++ integerText first ++ "-" ++ integerText (first + bytes.length - 1)

/-- What is wrong, in words. -/
def SettingsFault.message : SettingsFault → CodeText
  | .encoding reason place bytes =>
    "'utf-8' codec can't decode " ++ encodingPlace reason place bytes ++ ": " ++
      encodingReason reason
  | .text fault => fault.message
  | .noMapping => "Configuration file must be a YAML dictionary"
  | .unknownSections names => "Unknown configuration sections: " ++ CodeText.joined ", " names
  | .unnamedSection typeName =>
    "sequence item 0: expected str instance, " ++ typeName ++ " found"
  | .unorderedSections first second =>
    "'<' not supported between instances of '" ++ second ++ "' and '" ++ first ++ "'"
  | .wrongSection name => "'" ++ name ++ "' section must be a dictionary"
  | .emptyExtension => "'target.extension' must not be empty"
  | .wrongImports => "'target.imports' must be a list"
  | .wrongSize shown => "'component.default_size' must be an integer, got " ++ shown
  | .infiniteSize => "cannot convert float infinity to integer"
  | .sizeNotPositive => "'component.default_size' must be positive"
  | .wrongFlag label shown => "'" ++ label ++ "' must be true or false, got " ++ shown
  | .longInteger => unwrittenMessage

/-- A text, if what it shows can be written. -/
def writtenText {α : Type} (text : Option α) : Except SettingsFault α :=
  match text with
  | some s => .ok s
  | none => .error .longInteger

end SvgBuilder
