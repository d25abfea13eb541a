import SvgBuilder.Component.Configuration

/-!
# How settings are read

Settings are read in steps, and the first step that is refused ends the reading.  So settings are
read exactly if every section and every setting can be read; each setting from the value of its own
key.

## Main results

* `sectionEntries_eq_ok_iff`: what is read of a section.
* `readSizeInteger_eq`: a size is the integer that a value gives.
* `ofEntries_eq_ok_iff`: the settings of a mapping are read setting by setting.
-/

namespace SvgBuilder

open SvgBuilder.Number SvgBuilder.Text SvgBuilder.Yaml

/-! ## Steps -/

theorem bind_eq_ok_iff {ε α β : Type} {x : Except ε α} {f : α → Except ε β} {b : β} :
    x >>= f = .ok b ↔ ∃ a, x = .ok a ∧ f a = .ok b := by
  cases x with
  | error fault => exact ⟨nofun, fun ⟨_, h, _⟩ => nomatch h⟩
  | ok a => exact ⟨fun h => ⟨a, rfl, h⟩, fun ⟨_, ha, h⟩ => Except.ok.inj ha ▸ h⟩

theorem bind_eq_error_iff {ε α β : Type} {x : Except ε α} {f : α → Except ε β} {fault : ε} :
    x >>= f = .error fault ↔ x = .error fault ∨ ∃ a, x = .ok a ∧ f a = .error fault := by
  cases x with
  | error first =>
    have hFirst : Except.error first >>= f = .error first := rfl
    rw [hFirst, Except.error.injEq, Except.error.injEq]
    exact ⟨.inl, fun h => h.elim id fun ⟨_, hOk, _⟩ => nomatch hOk⟩
  | ok a =>
    refine ⟨fun h => .inr ⟨a, rfl, h⟩, ?_⟩
    rintro (h | ⟨_, ha, h⟩)
    · cases h
    · exact Except.ok.inj ha ▸ h

/-! ## Sections -/

variable (shared : Collections) (entries : List (Value × Value))

/-- Whether a section holds settings, or nothing at all. -/
def IsSection (name : String) : Prop :=
  ∀ v, Value.get? entries name = some v → (v.opened shared).isSubstantial = true →
    ∃ own, v.opened shared = .mapping own

/-- The entries of a section; there are none if it is missing or empty. -/
def ownEntries (name : String) : List (Value × Value) :=
  match (Value.get? entries name).map (Value.opened shared) with
  | some (.mapping own) => own
  | _ => []

section Sections

variable {shared : Collections} {entries : List (Value × Value)} {name : String}

theorem sectionEntries_of_isSection (h : IsSection shared entries name) :
    sectionEntries shared entries name = .ok (ownEntries shared entries name) := by
  unfold sectionEntries ownEntries
  cases hValue : Value.get? entries name with
  | none => rfl
  | some v =>
    rw [Option.map_some, Option.filter_some]
    cases hHolds : (v.opened shared).isSubstantial with
    | true =>
      obtain ⟨own, hOwn⟩ := h v hValue hHolds
      rw [hOwn]
      rfl
    | false =>
      rw [if_neg Bool.false_ne_true]
      dsimp only
      split
      · next own hOwn =>
        rw [Option.some.inj hOwn] at hHolds
        have hEmpty : own = [] := by simpa [Value.isSubstantial] using hHolds
        rw [hEmpty]
      · rfl

theorem sectionEntries_of_not_isSection (h : ¬IsSection shared entries name) :
    sectionEntries shared entries name = .error (.wrongSection name) := by
  simp only [IsSection, Classical.not_forall, not_exists] at h
  obtain ⟨v, hValue, hHolds, hOther⟩ := h
  unfold sectionEntries
  rw [hValue, Option.map_some, Option.filter_some, if_pos hHolds]
  split
  · next hNone => cases hNone
  · next own hOwn => exact absurd (Option.some.inj hOwn) (hOther own)
  · rfl

theorem sectionEntries_eq_ok_iff {own : List (Value × Value)} :
    sectionEntries shared entries name = .ok own ↔
      IsSection shared entries name ∧ own = ownEntries shared entries name := by
  by_cases h : IsSection shared entries name
  · rw [sectionEntries_of_isSection h, Except.ok.injEq]
    exact ⟨fun hOwn => ⟨h, hOwn.symm⟩, fun hOwn => hOwn.2.symm⟩
  · rw [sectionEntries_of_not_isSection h]
    exact ⟨nofun, fun hOwn => absurd hOwn.1 h⟩

end Sections

/-! ## Settings -/

/-- The settings that can be chosen. -/
inductive Setting where
  | extension
  | package
  | imports
  | defaultSize
  | colorConstants
  | strictTransforms
  | validate
  deriving DecidableEq, Repr

namespace Setting

/-- The section that a setting stands in; one of them stands in none. -/
def section? : Setting → Option String
  | .extension | .package | .imports => some "target"
  | .defaultSize | .colorConstants => some "component"
  | .strictTransforms => some "transform"
  | .validate => none

/-- The key of a setting. -/
def key : Setting → String
  | .extension => "extension"
  | .package => "package"
  | .imports => "imports"
  | .defaultSize => "default_size"
  | .colorConstants => "color_constants"
  | .strictTransforms => "strict"
  | .validate => "validate"

/-- The value of the key of a setting, if it is there. -/
def value? (shared : Collections) (entries : List (Value × Value)) (setting : Setting) :
    Option Value :=
  match setting.section? with
  | none => Value.get? entries setting.key
  | some name => Value.get? (ownEntries shared entries name) setting.key

end Setting

/-- What is read from a value, and the default if there is none. -/
def readOr {α : Type} (value? : Option Value) (default : α)
    (read : Value → Except SettingsFault α) : Except SettingsFault α :=
  match value? with
  | none => .ok default
  | some value => read value

theorem optionally_eq_readOr {α : Type} (entries : List (Value × Value)) (key : String)
    (default : α) (read : Value → Except SettingsFault α) :
    optionally entries key default read = readOr (Value.get? entries key) default read := rfl

/-- The integer that a value gives, if it gives one. -/
def givenInteger? : Value → Option Int
  | .truth b => some (if b then 1 else 0)
  | .integer i => some i
  | .float (.finite negative rank) => some (Double.withSign negative (Double.integerPart rank))
  | .text s => readInteger? s.toList
  | .bytes bs => (asciiText? bs).bind readInteger?
  | _ => none

/-- An integer that is found, or what is wrong with the value that is shown. -/
def integerOr (found : Option Int) (shown : Option String) : Except SettingsFault Int :=
  match found with
  | some i => .ok i
  | none => do throw (.wrongSize (← writtenText shown))

/-- Of what is not infinite, the integer that it gives is read. -/
theorem readSizeInteger_eq {shared : Collections} {v : Value}
    (h : ∀ negative, v ≠ .float (.infinite negative)) :
    readSizeInteger shared v = integerOr (givenInteger? v) (v.shown? shared) := by
  cases v with
  | float x =>
    cases x with
    | infinite negative => exact absurd rfl (h negative)
    | _ => rfl
  | _ => rfl

/-- Whether settings are read from the entries of a mapping. -/
structure IsReadFrom (c : Settings) : Prop where
  sections : checkSections entries = .ok ()
  target : IsSection shared entries "target"
  component : IsSection shared entries "component"
  transform : IsSection shared entries "transform"
  extension : readOr (Setting.extension.value? shared entries) Settings.default.extension
    (readExtension shared) = .ok c.extension
  package : readOr (Setting.package.value? shared entries) Settings.default.package
    (readPackage shared) = .ok c.package
  imports : readOr (Setting.imports.value? shared entries) Settings.default.imports
    (readImports shared) = .ok c.imports
  defaultSize : readOr (Setting.defaultSize.value? shared entries) Settings.default.defaultSize
    (readSize shared) = .ok c.defaultSize
  colorConstants : readOr (Setting.colorConstants.value? shared entries)
    Settings.default.colorConstants (readFlag shared "component.color_constants") =
      .ok c.colorConstants
  strictTransforms : readOr (Setting.strictTransforms.value? shared entries)
    Settings.default.strictTransforms (readFlag shared "transform.strict") = .ok c.strictTransforms
  validate : readOr (Setting.validate.value? shared entries) Settings.default.validate
    (readFlag shared "validate") = .ok c.validate

/-- The settings of a mapping are read setting by setting. -/
theorem ofEntries_eq_ok_iff {shared : Collections} {entries : List (Value × Value)} {c : Settings} :
    Settings.ofEntries shared entries = .ok c ↔ IsReadFrom shared entries c := by
  unfold Settings.ofEntries
  simp only [bind_eq_ok_iff, sectionEntries_eq_ok_iff, optionally_eq_readOr]
  constructor
  · rintro ⟨_, hSections, target, ⟨hTarget, rfl⟩, extension, hExtension, package, hPackage, imports,
      hImports, component, ⟨hComponent, rfl⟩, defaultSize, hSize, colorConstants, hColors, transform,
      ⟨hTransform, rfl⟩, strictTransforms, hStrict, validate, hValidate, h⟩
    obtain rfl := Except.ok.inj h
    exact ⟨hSections, hTarget, hComponent, hTransform, hExtension, hPackage, hImports, hSize,
      hColors, hStrict, hValidate⟩
  · intro h
    exact ⟨(), h.sections, _, ⟨h.target, rfl⟩, _, h.extension, _, h.package, _, h.imports, _,
      ⟨h.component, rfl⟩, _, h.defaultSize, _, h.colorConstants, _, ⟨h.transform, rfl⟩, _,
      h.strictTransforms, _, h.validate, rfl⟩

end SvgBuilder
