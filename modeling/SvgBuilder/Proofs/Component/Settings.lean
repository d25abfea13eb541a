import SvgBuilder.Proofs.Component.Configuration
import SvgBuilder.Proofs.Yaml.Numbering
import SvgBuilder.Proofs.Yaml.Table

/-!
# Settings that are read

The extension of settings that are read is not empty and does not begin with a point, the package is
missing or not empty, and the size is positive.  So all settings can be written out in their
sections, and are read again from there.

A setting is read from the value of its own key and from nothing else.  So dictionaries that agree
at that key give the same setting, whatever else they hold, and in whatever order.  The numbers of
their collections do not count.

## Main results

* `IsExtension.of_ofEntries`: the extensions that are read.
* `ofEntries_spelledOut`: valid settings are read from what they are written out as.
* `exists_dictionary`: a text that holds a mapping is read as a dictionary.
* `agreeAt_of_settings`: what is read of a setting depends on the value of its key alone.
* `agreeAt_of_isEmbedded`: dictionaries that are the same but for their numbers agree on all keys.
* `settings_valid_and_stable`: what is read is valid, is read again, and depends on its keys only.
-/

namespace SvgBuilder

open SvgBuilder.Number SvgBuilder.Text SvgBuilder.Yaml SvgBuilder.Yaml.Value

/-! ## Valid settings -/

/-- Whether a text is not empty and does not begin with a point. -/
structure IsExtension (extension : CodeText) : Prop where
  ne_empty : extension ≠ ""
  ne_point : extension.codes.head? ≠ some '.'.toNat

/-- Whether settings can be used. -/
structure Settings.IsValid (c : Settings) : Prop where
  extension : IsExtension c.extension
  package : c.package ≠ some ("" : String)
  defaultSize : 1 ≤ c.defaultSize

theorem isValid_default : Settings.default.IsValid :=
  ⟨⟨by decide, by decide⟩, by decide, by decide⟩

theorem IsExtension.of_readExtension {shared : Collections} {value : Value} {extension : CodeText}
    (h : readExtension shared value = .ok extension) : IsExtension extension := by
  refine ⟨ne_empty_of_readExtension h, ?_⟩
  unfold readExtension at h
  split at h
  · exact nomatch h
  · exact nomatch h
  · next codes _ hText =>
    obtain rfl := Except.ok.inj h
    obtain ⟨text, -, rfl⟩ := Option.map_eq_some_iff.1 hText
    intro hHead
    have hPoint := List.head?_dropWhile_not (fun code => decide (code = '.'.toNat)) text.codes
    rw [hHead] at hPoint
    exact absurd hPoint (by decide)

theorem ne_empty_of_readPackage {shared : Collections} {value : Value} {package : Option CodeText}
    (h : readPackage shared value = .ok package) : package ≠ some ("" : String) := by
  unfold readPackage at h
  split at h
  · next hHolds =>
    rintro rfl
    cases hText : value.toText? shared with
    | none =>
      rw [hText] at h
      cases h
    | some text =>
      rw [hText] at h
      obtain rfl := Option.some.inj (Except.ok.inj h)
      exact toText?_ne_empty hHolds hText
  · rw [← Except.ok.inj h]
    exact nofun

theorem one_le_of_readSize {shared : Collections} {value : Value} {size : Int}
    (h : readSize shared value = .ok size) : 1 ≤ size := by
  unfold readSize at h
  obtain ⟨read, -, h⟩ := bind_eq_ok_iff.1 h
  split at h
  · cases h
  · next hPositive =>
    rw [← Except.ok.inj h]
    omega

/-- What is read has a property that the default and all that is read from values have. -/
theorem of_readOr {α : Type} {P : α → Prop} {value? : Option Value} {default a : α}
    {read : Value → Except SettingsFault α} (hDefault : P default)
    (hRead : ∀ v a, read v = .ok a → P a) (h : readOr value? default read = .ok a) : P a := by
  cases value? with
  | none => exact Except.ok.inj h ▸ hDefault
  | some v => exact hRead v a h

/-- Settings that are read from a mapping are valid. -/
theorem isValid_of_ofEntries {shared : Collections} {entries : List (Value × Value)} {c : Settings}
    (h : Settings.ofEntries shared entries = .ok c) : c.IsValid := by
  have hRead := ofEntries_eq_ok_iff.1 h
  have hDefault := isValid_default
  exact ⟨of_readOr hDefault.extension (fun _ _ => .of_readExtension) hRead.extension,
    of_readOr (P := (· ≠ some (CodeText.ofString ""))) hDefault.package
      (fun _ _ => ne_empty_of_readPackage) hRead.package,
    of_readOr (P := (1 ≤ ·)) hDefault.defaultSize (fun _ _ => one_le_of_readSize) hRead.defaultSize⟩

/-- The extension of settings that are read from a mapping. -/
theorem IsExtension.of_ofEntries {shared : Collections} {entries : List (Value × Value)}
    {c : Settings} (h : Settings.ofEntries shared entries = .ok c) : IsExtension c.extension :=
  (isValid_of_ofEntries h).extension

/-! ## Settings that are written out -/

/-- A text as a value. -/
def textValue (t : CodeText) : Value := if t.isWhole then .text t.shown else .codes t.codes

/-- All settings in their sections. -/
def Settings.spelledOut (c : Settings) : List (Value × Value) :=
  [(.text "target", .mapping [
      (.text "extension", textValue c.extension),
      (.text "package", (c.package.map textValue).getD .null),
      (.text "imports", .list (c.imports.map textValue))]),
    (.text "component", .mapping [
      (.text "default_size", .integer c.defaultSize),
      (.text "color_constants", .truth c.colorConstants)]),
    (.text "transform", .mapping [(.text "strict", .truth c.strictTransforms)]),
    (.text "validate", .truth c.validate)]

@[simp] theorem toText?_textValue (t : CodeText) (shared : Collections) :
    (textValue t).toText? shared = some t := by
  unfold textValue
  split
  · next hWhole => exact congrArg some (CodeText.ofString_shown hWhole)
  · rfl

theorem isSubstantial_textValue {t : CodeText} (h : t ≠ "") (shared : Collections) :
    ((textValue t).opened shared).isSubstantial = true := by
  unfold textValue
  split
  · next hWhole =>
    have hShown : t.shown ≠ "" := fun he => h (by rw [← CodeText.ofString_shown hWhole, he])
    simpa [opened, isSubstantial] using hShown
  · have hCodes : t.codes ≠ [] := fun he => h (CodeText.ext he)
    simpa [opened, isSubstantial] using hCodes

theorem readExtension_textValue {extension : CodeText} (h : IsExtension extension)
    (shared : Collections) : readExtension shared (textValue extension) = .ok extension := by
  have hNil : extension.codes ≠ [] := fun he => h.ne_empty (CodeText.ext he)
  obtain ⟨code, rest, hText⟩ := List.exists_cons_of_ne_nil hNil
  have hPoint : code ≠ '.'.toNat := by
    rintro rfl
    exact h.ne_point (by rw [hText]; rfl)
  have hDrop : extension.codes.dropWhile (· = '.'.toNat) = code :: rest := by
    rw [hText, List.dropWhile_cons_of_neg (by simpa using hPoint)]
  unfold readExtension
  rw [toText?_textValue, Option.map_some, hDrop]
  dsimp only
  rw [← hText]

theorem readPackage_getD {package : Option CodeText} (h : package ≠ some ("" : String))
    (shared : Collections) :
    readPackage shared ((package.map textValue).getD .null) = .ok package := by
  cases package with
  | none => rfl
  | some text =>
    have hText : text ≠ "" := fun he => h (congrArg some he)
    rw [Option.map_some, Option.getD_some, readPackage,
      if_pos (isSubstantial_textValue hText shared), toText?_textValue]
    rfl

theorem readImports_textValue (imports : List CodeText) (shared : Collections) :
    readImports shared (.list (imports.map textValue)) = .ok imports := by
  show (imports.map textValue).mapM (fun item => writtenText (item.toText? shared)) = _
  induction imports with
  | nil => rfl
  | cons first imports ih =>
    rw [List.map_cons, List.mapM_cons, ih, toText?_textValue]
    rfl

theorem readSize_integer {size : Int} (h : 1 ≤ size) (shared : Collections) :
    readSize shared (.integer size) = .ok size := by
  have hPositive : ¬size ≤ 0 := by omega
  exact if_neg hPositive

/-- Valid settings are read from what they are written out as. -/
theorem ofEntries_spelledOut {c : Settings} (h : c.IsValid) (shared : Collections) :
    Settings.ofEntries shared c.spelledOut = .ok c := by
  have hSection {own : List (Value × Value)} {name : String}
      (hOwn : Value.get? c.spelledOut name = some (.mapping own)) :
      IsSection shared c.spelledOut name := by
    intro v hv _
    rw [hOwn] at hv
    exact ⟨own, by rw [← Option.some.inj hv]; rfl⟩
  refine ofEntries_eq_ok_iff.2
    ⟨rfl, hSection rfl, hSection rfl, hSection rfl, ?_, ?_, ?_, ?_, rfl, rfl, rfl⟩
  · exact readExtension_textValue h.extension shared
  · exact readPackage_getD h.package shared
  · exact readImports_textValue c.imports shared
  · exact readSize_integer h.defaultSize shared

/-! ## Settings from the values of their keys -/

section Values

variable {shared shared' : Collections} {v v' : Value}

theorem readExtension_congr (hTable : IsTable shared) (hTable' : IsTable shared')
    (h : Alike shared shared' v v') : readExtension shared v = readExtension shared' v' := by
  rw [readExtension, readExtension, toText?_congr hTable hTable' h.whole]

theorem readPackage_congr (hTable : IsTable shared) (hTable' : IsTable shared')
    (h : Alike shared shared' v v') : readPackage shared v = readPackage shared' v' := by
  rw [readPackage, readPackage, toText?_congr hTable hTable' h.whole,
    h.isSubstantial hTable hTable']

/-- Items that are written out alike have the same texts. -/
theorem mapM_toText?_congr (hTable : IsTable shared) (hTable' : IsTable shared')
    {items items' : List Value}
    (h : items.map (writtenOut shared) = items'.map (writtenOut shared')) :
    items.mapM (fun item => writtenText (item.toText? shared)) =
      items'.mapM (fun item => writtenText (item.toText? shared')) := by
  induction items generalizing items' with
  | nil =>
    rw [List.map_nil, eq_comm, List.map_eq_nil_iff] at h
    rw [h]
    rfl
  | cons first items ih =>
    obtain ⟨first', rest, rfl, hFirst, hRest⟩ := List.map_eq_cons_iff.1 h.symm
    rw [List.mapM_cons, List.mapM_cons, toText?_congr hTable hTable' hFirst.symm, ih hRest.symm]

theorem readImports_of_not_isList (h : (v.opened shared).isList = false) :
    readImports shared v = .error .wrongImports := by
  unfold readImports
  split
  · next items hOpened =>
    rw [hOpened] at h
    cases h
  · rfl

theorem readImports_congr (hTable : IsTable shared) (hTable' : IsTable shared')
    (h : Alike shared shared' v v') : readImports shared v = readImports shared' v' := by
  have hKind := h.isList hTable hTable'
  cases hList : (v.opened shared).isList with
  | true =>
    obtain ⟨items, hOpened⟩ := exists_of_isList hList
    obtain ⟨items', hOpened'⟩ := exists_of_isList (hKind ▸ hList)
    have hItems := h.items
    rw [itemsOut, itemsOut, hOpened, hOpened'] at hItems
    rw [readImports, readImports, hOpened, hOpened']
    exact mapM_toText?_congr hTable hTable' hItems
  | false =>
    rw [readImports_of_not_isList hList, readImports_of_not_isList (hKind ▸ hList)]

theorem readSizeInteger_of_not_isScalar (h : v.isScalar = false) (shared : Collections) :
    readSizeInteger shared v = (do throw (.wrongSize (← writtenText (v.shown? shared)))) := by
  cases v with
  | null | nan | list | pair | set | mapping | numbered => rfl
  | _ => cases h

theorem readSize_congr (hTable : IsTable shared) (hTable' : IsTable shared')
    (h : Alike shared shared' v v') : readSize shared v = readSize shared' v' := by
  have hShown := shown?_congr h.whole
  have hInteger : readSizeInteger shared v = readSizeInteger shared' v' := by
    cases hv : v.isScalar with
    | true =>
      obtain rfl := eq_of_isScalar hTable' hv h.whole
      unfold readSizeInteger
      rw [hShown]
    | false =>
      have hv' := isScalar_congr hTable hTable' h.whole ▸ hv
      rw [readSizeInteger_of_not_isScalar hv, readSizeInteger_of_not_isScalar hv', hShown]
  rw [readSize, hInteger, readSize]

theorem readFlag_of_not_isScalar (h : v.isScalar = false) (shared : Collections) (label : String) :
    readFlag shared label v = (do throw (.wrongFlag label (← writtenText (v.shown? shared)))) := by
  cases v with
  | truth => cases h
  | _ => rfl

theorem readFlag_congr (hTable : IsTable shared) (hTable' : IsTable shared')
    (h : Alike shared shared' v v') (label : String) :
    readFlag shared label v = readFlag shared' label v' := by
  have hShown := shown?_congr h.whole
  cases hv : v.isScalar with
  | true =>
    obtain rfl := eq_of_isScalar hTable' hv h.whole
    unfold readFlag
    rw [hShown]
  | false =>
    have hv' := isScalar_congr hTable hTable' h.whole ▸ hv
    rw [readFlag_of_not_isScalar hv, readFlag_of_not_isScalar hv', hShown]

end Values

/-! ## Dictionaries -/

/-- A dictionary and the table of its collections. -/
structure Dictionary where
  shared : Collections
  entries : List (Value × Value)
  isTable : IsTable shared

namespace Dictionary

/-- The settings that a dictionary gives. -/
def settings (d : Dictionary) : Except SettingsFault Settings :=
  Settings.ofEntries d.shared d.entries

/-- Whether two dictionaries agree on the key of a setting: both have no value for it, or their
values are alike. -/
def AgreeAt (d d' : Dictionary) (setting : Setting) : Prop :=
  Option.Rel (Alike d.shared d'.shared) (setting.value? d.shared d.entries)
    (setting.value? d'.shared d'.entries)

end Dictionary

/-- Whether settings agree on one of them. -/
def Settings.AgreeAt (c c' : Settings) : Setting → Prop
  | .extension => c.extension = c'.extension
  | .package => c.package = c'.package
  | .imports => c.imports = c'.imports
  | .defaultSize => c.defaultSize = c'.defaultSize
  | .colorConstants => c.colorConstants = c'.colorConstants
  | .strictTransforms => c.strictTransforms = c'.strictTransforms
  | .validate => c.validate = c'.validate

/-- What is read from values that agree is the same. -/
theorem readOr_congr {α : Type} {R : Value → Value → Prop} {value? value?' : Option Value}
    {default a a' : α} {read read' : Value → Except SettingsFault α}
    (hValues : Option.Rel R value? value?')
    (hRead : ∀ v v', R v v' → read v = read' v') (h : readOr value? default read = .ok a)
    (h' : readOr value?' default read' = .ok a') : a = a' := by
  refine Except.ok.inj (h.symm.trans (Eq.trans ?_ h'))
  cases hValues with
  | none => rfl
  | some hAlike => exact hRead _ _ hAlike

/-- Dictionaries that agree on the key of a setting give the same setting. -/
theorem agreeAt_of_settings {d d' : Dictionary} {c c' : Settings} (h : d.settings = .ok c)
    (h' : d'.settings = .ok c') {setting : Setting} (hAgree : d.AgreeAt d' setting) :
    c.AgreeAt c' setting := by
  have hRead := ofEntries_eq_ok_iff.1 h
  have hRead' := ofEntries_eq_ok_iff.1 h'
  have hTable := d.isTable
  have hTable' := d'.isTable
  cases setting with
  | extension =>
    exact readOr_congr hAgree (fun _ _ => readExtension_congr hTable hTable') hRead.extension
      hRead'.extension
  | package =>
    exact readOr_congr hAgree (fun _ _ => readPackage_congr hTable hTable') hRead.package
      hRead'.package
  | imports =>
    exact readOr_congr hAgree (fun _ _ => readImports_congr hTable hTable') hRead.imports
      hRead'.imports
  | defaultSize =>
    exact readOr_congr hAgree (fun _ _ => readSize_congr hTable hTable') hRead.defaultSize
      hRead'.defaultSize
  | colorConstants =>
    exact readOr_congr hAgree (fun _ _ hv => readFlag_congr hTable hTable' hv _) hRead.colorConstants
      hRead'.colorConstants
  | strictTransforms =>
    exact readOr_congr hAgree (fun _ _ hv => readFlag_congr hTable hTable' hv _) hRead.strictTransforms
      hRead'.strictTransforms
  | validate =>
    exact readOr_congr hAgree (fun _ _ hv => readFlag_congr hTable hTable' hv _) hRead.validate
      hRead'.validate

/-- A mapping holds the same sections under other numbers. -/
theorem isRenumbered_ownEntries {f : Nat → Nat} {shared shared' : Collections}
    {entries entries' : List (Value × Value)} (hTable : IsEmbedded f shared shared')
    (h : IsRenumbered f (.mapping entries) (.mapping entries')) (name : String) :
    IsRenumbered f (.mapping (ownEntries shared entries name))
      (.mapping (ownEntries shared' entries' name)) := by
  have hNone : IsRenumbered f (.mapping []) (.mapping []) := rfl
  have hGiven := get?_of_isRenumbered h name
  unfold ownEntries
  generalize Value.get? entries name = given at hGiven ⊢
  generalize Value.get? entries' name = given' at hGiven ⊢
  cases hGiven with
  | none => exact hNone
  | @some v v' hValue =>
    have hOpened := hValue.opened hTable
    rw [Option.map_some, Option.map_some]
    by_cases hMapping : ∃ own, v.opened shared = .mapping own
    · obtain ⟨own', hOwn'⟩ := hOpened.exists_mapping_iff.2 hMapping
      obtain ⟨own, hOwn⟩ := hMapping
      rw [hOwn, hOwn'] at hOpened ⊢
      exact hOpened
    · have hOther := not_exists.1 hMapping
      have hOther' := not_exists.1 (mt hOpened.exists_mapping_iff.1 hMapping)
      split
      · next own hOwn => exact absurd (Option.some.inj hOwn) (hOther own)
      · split
        · next own' hOwn' => exact absurd (Option.some.inj hOwn') (hOther' own')
        · exact hNone

/-- The numbers of collections do not matter: dictionaries that are the same but for them agree on
all keys. -/
theorem agreeAt_of_isEmbedded {f : Nat → Nat} {d d' : Dictionary}
    (hTable : IsEmbedded f d.shared d'.shared)
    (h : IsRenumbered f (.mapping d.entries) (.mapping d'.entries)) (setting : Setting) :
    d.AgreeAt d' setting := by
  have hAlike {entries entries' : List (Value × Value)}
      (hEntries : IsRenumbered f (.mapping entries) (.mapping entries')) (key : String) :
      Option.Rel (Alike d.shared d'.shared) (Value.get? entries key) (Value.get? entries' key) := by
    have hGiven := get?_of_isRenumbered hEntries key
    generalize Value.get? entries key = given at hGiven ⊢
    generalize Value.get? entries' key = given' at hGiven ⊢
    cases hGiven with
    | none => exact .none
    | some hValue => exact .some (alike_of_isRenumbered hTable hValue)
  unfold Dictionary.AgreeAt Setting.value?
  cases setting.section? with
  | none => exact hAlike h setting.key
  | some name => exact hAlike (isRenumbered_ownEntries hTable h name) setting.key

/-- What a text holds is a dictionary if it is a mapping. -/
theorem exists_dictionary {s : List Char} {shared : Collections} {value : Value}
    {entries : List (Value × Value)} (h : readValue s = .ok (shared, value))
    (hOpened : value.opened shared = .mapping entries) :
    ∃ d : Dictionary, d.settings = Settings.read s := by
  refine ⟨⟨shared, entries, isTable_of_readValue h⟩, ?_⟩
  rw [Settings.read, h]
  dsimp only
  rw [Settings.ofValue, hOpened]
  rfl

/-- Settings that are read are valid and stable: they are read again from all of them written out in
their sections, and each depends on the value of its own key only. -/
theorem settings_valid_and_stable {d : Dictionary} {c : Settings} (h : d.settings = .ok c) :
    c.IsValid ∧
    (∀ shared, Settings.ofEntries shared c.spelledOut = .ok c) ∧
    ∀ (d' : Dictionary) (c' : Settings), d'.settings = .ok c' → ∀ setting : Setting,
      d.AgreeAt d' setting → c.AgreeAt c' setting := by
  have hValid := isValid_of_ofEntries h
  exact ⟨hValid, ofEntries_spelledOut hValid, fun _ _ h' _ => agreeAt_of_settings h h'⟩

/-- A dictionary whose collections have numbers, with an extension that begins with a point. -/
def numberedDictionary : Dictionary where
  shared := #[.mapping [(.text "extension", .text ".sc"), (.text "imports", .numbered 1)],
    .list [.text "a.b", .nan (some 3)]]
  entries := [(.text "target", .numbered 0)]
  isTable n := by
    match n with
    | 0 => rfl
    | 1 => rfl
    | n + 2 => rfl

/-- A dictionary with the same imports, at another place and behind other keys. -/
def plainDictionary : Dictionary where
  shared := #[]
  entries := [(.text "validate", .truth false),
    (.text "target", .mapping [(.text "package", .text "p"),
      (.text "imports", .list [.text "a.b", .nan none])])]
  isTable _ := rfl

/-- The settings of the first one, with the point cut off. -/
def numberedSettings : Settings :=
  { Settings.default with extension := "sc", imports := ["a.b", "nan"] }

/-- The settings of the first one are valid and are read again, and the second one gives the same
imports. -/
theorem settings_valid_and_stable_imports :
    numberedDictionary.settings = .ok numberedSettings ∧ numberedSettings.IsValid ∧
      Settings.ofEntries #[] numberedSettings.spelledOut = .ok numberedSettings ∧
      ∃ c, plainDictionary.settings = .ok c ∧ c.package = some "p" ∧
        numberedSettings.imports = c.imports := by
  have hFirst : numberedDictionary.settings = .ok numberedSettings := by rfl
  have hSecond : plainDictionary.settings =
      .ok { Settings.default with
        package := some "p", imports := ["a.b", "nan"], validate := false } := by rfl
  have hAgree : numberedDictionary.AgreeAt plainDictionary .imports := .some ⟨rfl, rfl⟩
  obtain ⟨hValid, hAgain, hKeys⟩ := settings_valid_and_stable hFirst
  exact ⟨hFirst, hValid, hAgain #[], _, hSecond, rfl, hKeys _ _ hSecond .imports hAgree⟩

end SvgBuilder
