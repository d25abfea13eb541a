import SvgBuilder.Component.Section
import SvgBuilder.Component.Settings
import SvgBuilder.Yaml.Document

/-!
# Settings from a text

Settings are read from a mapping of sections.  What a section leaves out keeps its default, and so
does a section that is missing or empty.

## Main results

* `ne_empty_of_readExtension`: the extension is not empty.
-/

namespace SvgBuilder

open SvgBuilder.Number SvgBuilder.Text SvgBuilder.Yaml

/-! ## Single settings -/

/-- The extension that a value gives. -/
def readExtension (shared : Collections) (value : Value) : Except SettingsFault CodeText :=
  match (value.toText? shared).map fun text => text.codes.dropWhile (· = '.'.toNat) with
  | none => .error .longInteger
  | some [] => .error .emptyExtension
  | some codes => .ok ⟨codes⟩

/-- The package that a value gives. -/
def readPackage (shared : Collections) (value : Value) : Except SettingsFault (Option CodeText) :=
  if (value.opened shared).isSubstantial then (writtenText (value.toText? shared)).map some
  else .ok none

/-- The imports that a value gives. -/
def readImports (shared : Collections) (value : Value) : Except SettingsFault (List CodeText) :=
  match value.opened shared with
  | .list items => items.mapM fun item => writtenText (item.toText? shared)
  | _ => .error .wrongImports

/-- The characters of bytes of ASCII. -/
def asciiText? (bytes : List UInt8) : Option (List Char) :=
  bytes.mapM fun b => if b.toNat < 128 then some (Char.ofNat b.toNat) else none

/-- The integer that a value gives. -/
def readSizeInteger (shared : Collections) (value : Value) : Except SettingsFault Int :=
  let ofOption (i : Option Int) : Except SettingsFault Int :=
    match i with
    | some i => .ok i
    | none => do throw (.wrongSize (← writtenText (value.shown? shared)))
  match value with
  | .truth b => .ok (if b then 1 else 0)
  | .integer i => .ok i
  | .float (.finite negative rank) => .ok (Double.withSign negative (Double.integerPart rank))
  | .float (.infinite _) => .error .infiniteSize
  | .text s => ofOption (readInteger? s.toList)
  | .bytes bytes => ofOption ((asciiText? bytes).bind readInteger?)
  | _ => ofOption none

/-- The size that a value gives. -/
def readSize (shared : Collections) (value : Value) : Except SettingsFault Int := do
  let size ← readSizeInteger shared value
  if size ≤ 0 then throw .sizeNotPositive
  pure size

/-- The truth value that a value is. -/
def readFlag (shared : Collections) (label : String) (value : Value) :
    Except SettingsFault Bool :=
  match value with
  | .truth b => .ok b
  | _ => do throw (.wrongFlag label (← writtenText (value.shown? shared)))

/-! ## Settings -/

/-- The settings that the sections of a mapping give; the collections in it may be shared. -/
def Settings.ofEntries (shared : Collections) (entries : List (Value × Value)) :
    Except SettingsFault Settings := do
  let d := Settings.default
  checkSections entries
  let target ← sectionEntries shared entries "target"
  let extension ← optionally target "extension" d.extension (readExtension shared)
  let package ← optionally target "package" d.package (readPackage shared)
  let imports ← optionally target "imports" d.imports (readImports shared)
  let component ← sectionEntries shared entries "component"
  let defaultSize ← optionally component "default_size" d.defaultSize (readSize shared)
  let colorConstants ← optionally component "color_constants" d.colorConstants
    (readFlag shared "component.color_constants")
  let transform ← sectionEntries shared entries "transform"
  let strictTransforms ← optionally transform "strict" d.strictTransforms
    (readFlag shared "transform.strict")
  let validate ← optionally entries "validate" d.validate (readFlag shared "validate")
  pure { extension, package, imports, defaultSize, colorConstants, strictTransforms, validate }

/-- The settings that a value gives. -/
def Settings.ofValue (shared : Collections) (value : Value) : Except SettingsFault Settings :=
  match value.opened shared with
  | .null => .ok .default
  | .mapping entries => Settings.ofEntries shared entries
  | _ => .error .noMapping

/-- The settings that a text gives. -/
def Settings.read (s : List Char) : Except SettingsFault Settings :=
  match readValue s with
  | .ok (shared, value) => Settings.ofValue shared value
  | .error fault => .error (.text fault)

/-- The settings that a file gives. -/
def Settings.readBytes (bytes : List UInt8) : Except SettingsFault Settings :=
  match Utf8.decode? bytes with
  | some s => Settings.read s
  | none =>
    match Utf8.firstFault? 0 0 bytes with
    | some (reason, place, wrong) => .error (.encoding reason place wrong)
    | none => .error (.text .malformed)

theorem ne_empty_of_readExtension {shared : Collections} {value : Value} {extension : CodeText}
    (h : readExtension shared value = .ok extension) : extension ≠ "" := by
  unfold readExtension at h
  split at h
  · exact nomatch h
  · exact nomatch h
  · next hne _ =>
    obtain rfl := Except.ok.inj h
    intro he
    exact hne (congrArg CodeText.codes he)

end SvgBuilder
