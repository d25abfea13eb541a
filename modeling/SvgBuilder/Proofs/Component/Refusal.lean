import Mathlib.Data.List.TakeWhile
import SvgBuilder.Proofs.Component.Configuration

/-!
# Settings that are refused

Settings are read from the mappings whose sections are known and whose settings have values of the
right kinds.  What else is given is refused, nearly always with a fault that says so.  There are two
others: names of sections that are no texts cannot be put in a message, and a size that is infinite
has no integer.

More is accepted than the messages say.  A section may be anything that is empty, and a size may be
a number with a fraction, the truth value that counts as one, or bytes.

## Main results

* `exists_ofEntries_iff`: settings are read exactly from what is acceptable.
* `kind_of_ofEntries`: the faults that end the reading of settings.
* `configuration_faults`: what is accepted from a text, and what kinds of faults there are.
-/

namespace SvgBuilder

open SvgBuilder.Number SvgBuilder.Text SvgBuilder.Yaml

variable (shared : Collections) (entries : List (Value × Value))

/-! ## What is accepted -/

/-- The values that a size is read from: integers, the truth value that counts as one, numbers with
a point, whose fraction is left out, and the texts and bytes of integers; all of them positive. -/
inductive IsSize : Value → Prop
  | truth : IsSize (.truth true)
  | integer {i : Int} (h : 1 ≤ i) : IsSize (.integer i)
  | float {negative : Bool} {rank : Fin finiteRanks}
    (h : 1 ≤ Double.withSign negative (Double.integerPart rank)) :
    IsSize (.float (.finite negative rank))
  | text {s : String} {i : Int} (hRead : readInteger? s.toList = some i) (h : 1 ≤ i) :
    IsSize (.text s)
  | bytes {bs : List UInt8} {i : Int} (hRead : (asciiText? bs).bind readInteger? = some i)
    (h : 1 ≤ i) : IsSize (.bytes bs)

/-- The values that a setting is read from. -/
def Setting.Accepts : Setting → Value → Prop
  | .extension, v => ∃ text, v.toText? shared = some text ∧ ∃ c ∈ text.codes, c ≠ '.'.toNat
  | .package, v => (v.opened shared).isSubstantial = true → ∃ text, v.toText? shared = some text
  | .imports, v => ∃ items, v.opened shared = .list items ∧
    ∀ item ∈ items, ∃ text, item.toText? shared = some text
  | .defaultSize, v => IsSize v
  | .colorConstants, v | .strictTransforms, v | .validate, v => ∃ b, v = .truth b

/-- Whether a setting is read: from its default if its key is missing. -/
def Setting.IsReadable (setting : Setting) : Prop :=
  ∀ v, setting.value? shared entries = some v → setting.Accepts shared v

/-- Whether all sections are known ones. -/
def HasKnownSections : Prop := ∀ entry ∈ entries, ∃ name ∈ knownSections, entry.1 = .text name

/-- The mappings that settings are read from. -/
structure IsAcceptable : Prop where
  known : HasKnownSections entries
  sections : ∀ name ∈ ["target", "component", "transform"], IsSection shared entries name
  settings : ∀ setting : Setting, setting.IsReadable shared entries

section Accepted

variable {shared : Collections} {entries : List (Value × Value)} {v : Value}

theorem exists_readOr_iff {α : Type} {value? : Option Value} (default : α)
    {read : Value → Except SettingsFault α} {Accepts : Value → Prop}
    (h : ∀ v, (∃ a, read v = .ok a) ↔ Accepts v) :
    (∃ a, readOr value? default read = .ok a) ↔ ∀ v, value? = some v → Accepts v := by
  cases value? with
  | none => exact iff_of_true ⟨default, rfl⟩ nofun
  | some v =>
    rw [readOr, h v]
    exact ⟨fun hv w hw => Option.some.inj hw ▸ hv, fun hAll => hAll v rfl⟩

theorem exists_writtenText_iff {α : Type} {text : Option α} :
    (∃ s, writtenText text = .ok s) ↔ ∃ s, text = some s := by
  cases text with
  | none => exact iff_of_false nofun nofun
  | some s => exact iff_of_true ⟨s, rfl⟩ ⟨s, rfl⟩

theorem exists_readExtension_iff :
    (∃ s, readExtension shared v = .ok s) ↔ Setting.extension.Accepts shared v := by
  show _ ↔ ∃ text, v.toText? shared = some text ∧ ∃ c ∈ text.codes, c ≠ '.'.toNat
  unfold readExtension
  cases v.toText? shared with
  | none => exact iff_of_false nofun fun ⟨_, h, _⟩ => nomatch h
  | some text =>
    rw [Option.map_some]
    cases hRest : text.codes.dropWhile (· = '.'.toNat) with
    | nil =>
      refine iff_of_false nofun ?_
      rintro ⟨_, hSame, c, hc, hPoint⟩
      obtain rfl := Option.some.inj hSame
      exact hPoint (by simpa using List.dropWhile_eq_nil_iff.1 hRest c hc)
    | cons c rest =>
      have hPoint := List.head?_dropWhile_not (fun c => decide (c = '.'.toNat)) text.codes
      rw [hRest] at hPoint
      have hMem : c ∈ text.codes :=
        (List.dropWhile_suffix _).subset (hRest ▸ List.mem_cons_self)
      exact iff_of_true ⟨_, rfl⟩ ⟨text, rfl, c, hMem, by simpa using hPoint⟩

theorem exists_readPackage_iff :
    (∃ s, readPackage shared v = .ok s) ↔ Setting.package.Accepts shared v := by
  show _ ↔ ((v.opened shared).isSubstantial = true → ∃ text, v.toText? shared = some text)
  unfold readPackage
  rw [← exists_writtenText_iff]
  split
  · next hHolds =>
    cases writtenText (v.toText? shared) with
    | error fault => exact iff_of_false nofun fun h => nomatch h hHolds
    | ok text => exact iff_of_true ⟨some text, rfl⟩ fun _ => ⟨text, rfl⟩
  · next hEmpty => exact iff_of_true ⟨none, rfl⟩ fun hHolds => absurd hHolds hEmpty

theorem exists_mapM_iff {ε α β : Type} {f : α → Except ε β} {as : List α} :
    (∃ bs, as.mapM f = .ok bs) ↔ ∀ a ∈ as, ∃ b, f a = .ok b := by
  induction as with
  | nil => exact iff_of_true ⟨[], rfl⟩ nofun
  | cons a as ih =>
    rw [List.mapM_cons, List.forall_mem_cons, ← ih]
    cases f a with
    | error fault => exact iff_of_false nofun fun h => nomatch h.1
    | ok b =>
      cases as.mapM f with
      | error fault => exact iff_of_false nofun fun h => nomatch h.2
      | ok bs => exact iff_of_true ⟨b :: bs, rfl⟩ ⟨⟨b, rfl⟩, bs, rfl⟩

theorem exists_readImports_iff :
    (∃ s, readImports shared v = .ok s) ↔ Setting.imports.Accepts shared v := by
  show _ ↔ ∃ items, v.opened shared = .list items ∧
    ∀ item ∈ items, ∃ text, item.toText? shared = some text
  unfold readImports
  split
  · next items hOpened =>
    rw [exists_mapM_iff, hOpened]
    simp only [exists_writtenText_iff]
    refine ⟨fun h => ⟨items, rfl, h⟩, ?_⟩
    rintro ⟨_, hSame, h⟩
    obtain rfl := Value.list.inj hSame
    exact h
  · next hOther => exact iff_of_false nofun fun ⟨items, hItems, _⟩ => hOther items hItems

theorem exists_readFlag_iff {label : String} :
    (∃ b, readFlag shared label v = .ok b) ↔ ∃ b, v = .truth b := by
  cases v with
  | truth b => exact iff_of_true ⟨b, rfl⟩ ⟨b, rfl⟩
  | _ =>
    refine iff_of_false ?_ nofun
    rintro ⟨b, h⟩
    obtain ⟨_, -, h⟩ := bind_eq_ok_iff.1 h
    cases h

/-- A size that is read is positive, and is the integer that the value gives. -/
theorem readSize_eq_ok_iff {i : Int} :
    readSize shared v = .ok i ↔ readSizeInteger shared v = .ok i ∧ 1 ≤ i := by
  unfold readSize
  rw [bind_eq_ok_iff]
  constructor
  · rintro ⟨size, hSize, h⟩
    split at h
    · cases h
    · next hPositive =>
      obtain rfl := Except.ok.inj h
      exact ⟨hSize, by omega⟩
  · rintro ⟨hSize, hPositive⟩
    exact ⟨i, hSize, if_neg (by omega)⟩

theorem integerOr_eq_ok_iff {found : Option Int} {shown : Option String} {i : Int} :
    integerOr found shown = .ok i ↔ found = some i := by
  cases found with
  | some j => simp [integerOr]
  | none =>
    refine iff_of_false ?_ nofun
    intro h
    obtain ⟨_, -, h⟩ := bind_eq_ok_iff.1 h
    cases h

theorem readSizeInteger_eq_ok_iff {i : Int} :
    readSizeInteger shared v = .ok i ↔ givenInteger? v = some i := by
  by_cases hInfinite : ∃ negative, v = .float (.infinite negative)
  · obtain ⟨negative, rfl⟩ := hInfinite
    exact iff_of_false nofun nofun
  · rw [readSizeInteger_eq (not_exists.1 hInfinite), integerOr_eq_ok_iff]

/-- The values of sizes are those that give a positive integer. -/
theorem isSize_iff : IsSize v ↔ ∃ i, givenInteger? v = some i ∧ 1 ≤ i := by
  constructor
  · intro hSize
    cases hSize with
    | truth => exact ⟨1, rfl, by omega⟩
    | integer h => exact ⟨_, rfl, h⟩
    | float h => exact ⟨_, rfl, h⟩
    | text hRead h => exact ⟨_, hRead, h⟩
    | bytes hRead h => exact ⟨_, hRead, h⟩
  · rintro ⟨i, hGiven, hPositive⟩
    cases v with
    | truth b =>
      cases b with
      | true => exact .truth
      | false =>
        obtain rfl := Option.some.inj hGiven
        exact absurd hPositive (by decide)
    | integer j =>
      obtain rfl := Option.some.inj hGiven
      exact .integer hPositive
    | float x =>
      cases x with
      | finite negative rank =>
        obtain rfl := Option.some.inj hGiven
        exact .float hPositive
      | _ => cases hGiven
    | text s => exact .text hGiven hPositive
    | bytes bs => exact .bytes hGiven hPositive
    | _ => cases hGiven

theorem exists_readSize_iff :
    (∃ i, readSize shared v = .ok i) ↔ Setting.defaultSize.Accepts shared v := by
  show _ ↔ IsSize v
  simp only [readSize_eq_ok_iff, readSizeInteger_eq_ok_iff, isSize_iff]

theorem isKnownSection_iff {key : Value} :
    isKnownSection key = true ↔ ∃ name ∈ knownSections, key = .text name := by
  cases key <;> simp [isKnownSection]

theorem checkSections_eq_ok_iff : checkSections entries = .ok () ↔ HasKnownSections entries := by
  have hKnown : (entries.map (·.1)).filter (!isKnownSection ·) = [] ↔ HasKnownSections entries := by
    simp [HasKnownSections, List.filter_eq_nil_iff, isKnownSection_iff]
  rw [← hKnown]
  unfold checkSections
  split
  · next hNone => exact iff_of_true rfl hNone
  · next hSome => exact iff_of_false nofun fun hNone => hSome hNone

/-- Settings are read exactly from what is acceptable. -/
theorem exists_ofEntries_iff :
    (∃ c, Settings.ofEntries shared entries = .ok c) ↔ IsAcceptable shared entries := by
  constructor
  · rintro ⟨c, h⟩
    have hRead := ofEntries_eq_ok_iff.1 h
    refine ⟨checkSections_eq_ok_iff.1 hRead.sections, ?_, ?_⟩
    · simpa using ⟨hRead.target, hRead.component, hRead.transform⟩
    · intro setting
      cases setting with
      | extension =>
        exact (exists_readOr_iff _ fun _ => exists_readExtension_iff).1 ⟨_, hRead.extension⟩
      | package => exact (exists_readOr_iff _ fun _ => exists_readPackage_iff).1 ⟨_, hRead.package⟩
      | imports => exact (exists_readOr_iff _ fun _ => exists_readImports_iff).1 ⟨_, hRead.imports⟩
      | defaultSize =>
        exact (exists_readOr_iff _ fun _ => exists_readSize_iff).1 ⟨_, hRead.defaultSize⟩
      | colorConstants =>
        exact (exists_readOr_iff _ fun _ => exists_readFlag_iff).1 ⟨_, hRead.colorConstants⟩
      | strictTransforms =>
        exact (exists_readOr_iff _ fun _ => exists_readFlag_iff).1 ⟨_, hRead.strictTransforms⟩
      | validate => exact (exists_readOr_iff _ fun _ => exists_readFlag_iff).1 ⟨_, hRead.validate⟩
  · intro h
    obtain ⟨extension, hExtension⟩ := (exists_readOr_iff Settings.default.extension fun _ =>
      exists_readExtension_iff).2 (h.settings .extension)
    obtain ⟨package, hPackage⟩ := (exists_readOr_iff Settings.default.package fun _ =>
      exists_readPackage_iff).2 (h.settings .package)
    obtain ⟨imports, hImports⟩ := (exists_readOr_iff Settings.default.imports fun _ =>
      exists_readImports_iff).2 (h.settings .imports)
    obtain ⟨defaultSize, hSize⟩ := (exists_readOr_iff Settings.default.defaultSize fun _ =>
      exists_readSize_iff).2 (h.settings .defaultSize)
    obtain ⟨colorConstants, hColors⟩ := (exists_readOr_iff Settings.default.colorConstants fun _ =>
      exists_readFlag_iff).2 (h.settings .colorConstants)
    obtain ⟨strictTransforms, hStrict⟩ :=
      (exists_readOr_iff Settings.default.strictTransforms fun _ => exists_readFlag_iff).2
        (h.settings .strictTransforms)
    obtain ⟨validate, hValidate⟩ := (exists_readOr_iff Settings.default.validate fun _ =>
      exists_readFlag_iff).2 (h.settings .validate)
    exact ⟨⟨extension, package, imports, defaultSize, colorConstants, strictTransforms, validate⟩,
      ofEntries_eq_ok_iff.2 ⟨checkSections_eq_ok_iff.2 h.known, h.sections _ (by simp),
        h.sections _ (by simp), h.sections _ (by simp), hExtension, hPackage, hImports, hSize, hColors,
        hStrict, hValidate⟩⟩

end Accepted

/-! ## What is refused -/

/-- Whether there is a section whose name is no text. -/
def HasUnnamedSection : Prop := ∃ entry ∈ entries, keyText? entry.1 = none

/-- The mappings whose size is infinite and is come to: all that is read before it can be read. -/
structure ReachesInfinity : Prop where
  known : HasKnownSections entries
  sections : ∀ name ∈ ["target", "component"], IsSection shared entries name
  settings : ∀ setting ∈ [Setting.extension, .package, .imports],
    setting.IsReadable shared entries
  size : ∃ negative, Setting.defaultSize.value? shared entries = some (.float (.infinite negative))

section Refused

variable {shared : Collections} {entries : List (Value × Value)} {v : Value} {fault : SettingsFault}

theorem kind_of_writtenText {α : Type} {text : Option α} (h : writtenText text = .error fault) :
    fault.kind = .value := by
  cases text with
  | none => exact Except.error.inj h ▸ rfl
  | some s => cases h

theorem kind_of_readExtension (h : readExtension shared v = .error fault) : fault.kind = .value := by
  unfold readExtension at h
  split at h
  · exact Except.error.inj h ▸ rfl
  · exact Except.error.inj h ▸ rfl
  · cases h

theorem kind_of_readPackage (h : readPackage shared v = .error fault) : fault.kind = .value := by
  unfold readPackage at h
  split at h
  · cases hText : writtenText (v.toText? shared) with
    | error first =>
      rw [hText] at h
      exact Except.error.inj h ▸ kind_of_writtenText hText
    | ok text =>
      rw [hText] at h
      cases h
  · cases h

theorem exists_of_mapM_eq_error {α β : Type} {f : α → Except SettingsFault β} {as : List α}
    (h : as.mapM f = .error fault) : ∃ a ∈ as, f a = .error fault := by
  induction as with
  | nil => cases h
  | cons a as ih =>
    rw [List.mapM_cons] at h
    rcases bind_eq_error_iff.1 h with h | ⟨b, -, h⟩
    · exact ⟨a, List.mem_cons_self, h⟩
    · rcases bind_eq_error_iff.1 h with h | ⟨bs, -, h⟩
      · obtain ⟨other, hMem, hOther⟩ := ih h
        exact ⟨other, List.mem_cons_of_mem _ hMem, hOther⟩
      · cases h

theorem kind_of_readImports (h : readImports shared v = .error fault) : fault.kind = .value := by
  unfold readImports at h
  split at h
  · obtain ⟨item, -, hItem⟩ := exists_of_mapM_eq_error h
    exact kind_of_writtenText hItem
  · exact Except.error.inj h ▸ rfl

/-- A message that shows a value fails only if that cannot be written. -/
theorem kind_of_shown {α : Type} {text : Option String} {f : String → SettingsFault}
    (hf : ∀ s, (f s).kind = .value)
    (h : (do throw (f (← writtenText text)) : Except SettingsFault α) = .error fault) :
    fault.kind = .value := by
  rcases bind_eq_error_iff.1 h with h | ⟨s, -, h⟩
  · exact kind_of_writtenText h
  · exact Except.error.inj h ▸ hf s

theorem kind_of_readFlag {label : String} (h : readFlag shared label v = .error fault) :
    fault.kind = .value := by
  unfold readFlag at h
  split at h
  · cases h
  · exact kind_of_shown (fun _ => rfl) h

theorem kind_of_readSizeInteger (h : readSizeInteger shared v = .error fault) :
    fault.kind = .value ∨ fault = .infiniteSize ∧ ∃ negative, v = .float (.infinite negative) := by
  by_cases hInfinite : ∃ negative, v = .float (.infinite negative)
  · obtain ⟨negative, rfl⟩ := hInfinite
    exact .inr ⟨(Except.error.inj h).symm, negative, rfl⟩
  · rw [readSizeInteger_eq (not_exists.1 hInfinite)] at h
    cases hGiven : givenInteger? v with
    | some i =>
      rw [hGiven] at h
      cases h
    | none =>
      rw [hGiven] at h
      exact .inl (kind_of_shown (fun _ => rfl) h)

theorem kind_of_readSize (h : readSize shared v = .error fault) :
    fault.kind = .value ∨ fault = .infiniteSize ∧ ∃ negative, v = .float (.infinite negative) := by
  unfold readSize at h
  rcases bind_eq_error_iff.1 h with h | ⟨i, -, h⟩
  · exact kind_of_readSizeInteger h
  · split at h
    · exact .inl (Except.error.inj h ▸ rfl)
    · cases h

theorem exists_of_readOr_eq_error {α : Type} {value? : Option Value} {default : α}
    {read : Value → Except SettingsFault α} (h : readOr value? default read = .error fault) :
    ∃ v, value? = some v ∧ read v = .error fault := by
  cases value? with
  | none => cases h
  | some v => exact ⟨v, rfl, h⟩

theorem kind_of_sectionEntries {name : String}
    (h : sectionEntries shared entries name = .error fault) : fault.kind = .value := by
  by_cases hSection : IsSection shared entries name
  · rw [sectionEntries_of_isSection hSection] at h
    cases h
  · rw [sectionEntries_of_not_isSection hSection] at h
    exact Except.error.inj h ▸ rfl

theorem mapM_eq_none_iff {α β : Type} {f : α → Option β} {as : List α} :
    as.mapM f = none ↔ ∃ a ∈ as, f a = none := by
  induction as with
  | nil => exact iff_of_false nofun fun ⟨_, h, _⟩ => nomatch h
  | cons a as ih =>
    simp only [List.mapM_cons, List.mem_cons, exists_eq_or_imp, ← ih]
    cases f a with
    | none => exact iff_of_true rfl (.inl rfl)
    | some b =>
      cases as.mapM f with
      | none => exact iff_of_true rfl (.inr rfl)
      | some bs => exact iff_of_false nofun (fun h => h.elim nofun nofun)

theorem kind_of_unknownFault (keys : List Value) :
    (unknownFault keys).kind = if keys.mapM keyText? = none then .type else .value := by
  unfold unknownFault
  split
  · next names hNames =>
    rw [if_neg (by simp [hNames])]
    rfl
  · next hNone =>
    rw [if_pos hNone]
    dsimp only
    split <;> rfl

/-- Names of sections cannot be put in a message exactly if one of them is no text. -/
theorem kind_of_checkSections (h : checkSections entries = .error fault) :
    fault.kind = .type ∧ HasUnnamedSection entries ∨
      fault.kind = .value ∧ ¬HasUnnamedSection entries := by
  have hUnnamed : ((entries.map (·.1)).filter (!isKnownSection ·)).mapM keyText? = none ↔
      HasUnnamedSection entries := by
    rw [mapM_eq_none_iff]
    constructor
    · rintro ⟨key, hKey, hNone⟩
      obtain ⟨entry, hEntry, rfl⟩ := List.mem_map.1 (List.mem_filter.1 hKey).1
      exact ⟨entry, hEntry, hNone⟩
    · rintro ⟨entry, hEntry, hNone⟩
      refine ⟨entry.1, List.mem_filter.2 ⟨List.mem_map_of_mem hEntry, ?_⟩, hNone⟩
      rw [Bool.not_eq_true', Bool.eq_false_iff, ne_eq, isKnownSection_iff]
      rintro ⟨name, -, hName⟩
      rw [hName] at hNone
      cases hNone
  unfold checkSections at h
  split at h
  · cases h
  · rw [← Except.error.inj h, kind_of_unknownFault, ← hUnnamed]
    split
    · next hNone => exact .inl ⟨rfl, hNone⟩
    · next hSome => exact .inr ⟨rfl, hSome⟩

theorem not_known_of_unnamed (h : HasUnnamedSection entries) : ¬HasKnownSections entries := by
  intro hKnown
  obtain ⟨entry, hEntry, hNone⟩ := h
  obtain ⟨name, -, hName⟩ := hKnown entry hEntry
  rw [hName] at hNone
  cases hNone

/-- What ends the reading of settings: names of sections, something of a wrong kind, or a size that
is infinite. -/
theorem kind_of_ofEntries (h : Settings.ofEntries shared entries = .error fault) :
    fault.kind = .type ∧ HasUnnamedSection entries ∨
      fault.kind = .value ∧ ¬HasUnnamedSection entries ∨
      fault = .infiniteSize ∧ ReachesInfinity shared entries := by
  unfold Settings.ofEntries at h
  rcases bind_eq_error_iff.1 h with h | ⟨_, hSections, h⟩
  · exact (kind_of_checkSections h).imp id .inl
  have hKnown := checkSections_eq_ok_iff.1 hSections
  have hNamed : ¬HasUnnamedSection entries := fun hUnnamed => not_known_of_unnamed hUnnamed hKnown
  have hValue (h : fault.kind = .value) : fault.kind = .value ∧ ¬HasUnnamedSection entries ∨
    fault = .infiniteSize ∧ ReachesInfinity shared entries := .inl ⟨h, hNamed⟩
  refine .inr ?_
  rcases bind_eq_error_iff.1 h with h | ⟨_, hOwn, h⟩
  · exact hValue (kind_of_sectionEntries h)
  obtain ⟨hTarget, rfl⟩ := sectionEntries_eq_ok_iff.1 hOwn
  rcases bind_eq_error_iff.1 h with h | ⟨extension, hExtension, h⟩
  · obtain ⟨v, -, h⟩ := exists_of_readOr_eq_error h
    exact hValue (kind_of_readExtension h)
  rcases bind_eq_error_iff.1 h with h | ⟨package, hPackage, h⟩
  · obtain ⟨v, -, h⟩ := exists_of_readOr_eq_error h
    exact hValue (kind_of_readPackage h)
  rcases bind_eq_error_iff.1 h with h | ⟨imports, hImports, h⟩
  · obtain ⟨v, -, h⟩ := exists_of_readOr_eq_error h
    exact hValue (kind_of_readImports h)
  rcases bind_eq_error_iff.1 h with h | ⟨_, hOwn, h⟩
  · exact hValue (kind_of_sectionEntries h)
  obtain ⟨hComponent, rfl⟩ := sectionEntries_eq_ok_iff.1 hOwn
  rcases bind_eq_error_iff.1 h with h | ⟨size, -, h⟩
  · obtain ⟨v, hv, h⟩ := exists_of_readOr_eq_error h
    rcases kind_of_readSize h with h | ⟨rfl, negative, rfl⟩
    · exact hValue h
    · refine .inr ⟨rfl, hKnown, by simpa using ⟨hTarget, hComponent⟩, ?_, negative, hv⟩
      have hReadable := (exists_readOr_iff _ fun _ => exists_readExtension_iff).1 ⟨_, hExtension⟩
      have hReadable' := (exists_readOr_iff _ fun _ => exists_readPackage_iff).1 ⟨_, hPackage⟩
      have hReadable'' := (exists_readOr_iff _ fun _ => exists_readImports_iff).1 ⟨_, hImports⟩
      simpa using ⟨hReadable, hReadable', hReadable''⟩
  rcases bind_eq_error_iff.1 h with h | ⟨colorConstants, -, h⟩
  · obtain ⟨v, -, h⟩ := exists_of_readOr_eq_error h
    exact hValue (kind_of_readFlag h)
  rcases bind_eq_error_iff.1 h with h | ⟨_, -, h⟩
  · exact hValue (kind_of_sectionEntries h)
  rcases bind_eq_error_iff.1 h with h | ⟨strictTransforms, -, h⟩
  · obtain ⟨v, -, h⟩ := exists_of_readOr_eq_error h
    exact hValue (kind_of_readFlag h)
  rcases bind_eq_error_iff.1 h with h | ⟨validate, -, h⟩
  · obtain ⟨v, -, h⟩ := exists_of_readOr_eq_error h
    exact hValue (kind_of_readFlag h)
  · cases h

/-- A size that is infinite and is come to ends the reading of settings. -/
theorem ofEntries_of_reachesInfinity (h : ReachesInfinity shared entries) :
    Settings.ofEntries shared entries = .error .infiniteSize := by
  obtain ⟨hKnown, hSections, hSettings, negative, hSize⟩ := h
  have hTarget := hSections "target" (by simp)
  have hComponent := hSections "component" (by simp)
  obtain ⟨extension, hExtension⟩ := (exists_readOr_iff Settings.default.extension fun _ =>
    exists_readExtension_iff).2 (hSettings .extension (by simp))
  obtain ⟨package, hPackage⟩ := (exists_readOr_iff Settings.default.package fun _ =>
    exists_readPackage_iff).2 (hSettings .package (by simp))
  obtain ⟨imports, hImports⟩ := (exists_readOr_iff Settings.default.imports fun _ =>
    exists_readImports_iff).2 (hSettings .imports (by simp))
  have hInfinite : readOr (Setting.defaultSize.value? shared entries) Settings.default.defaultSize
      (readSize shared) = .error .infiniteSize := by
    rw [hSize]
    rfl
  unfold Settings.ofEntries
  simp only [bind_eq_error_iff, sectionEntries_eq_ok_iff, optionally_eq_readOr]
  exact .inr ⟨(), checkSections_eq_ok_iff.2 hKnown, .inr ⟨_, ⟨hTarget, rfl⟩, .inr ⟨_, hExtension,
    .inr ⟨_, hPackage, .inr ⟨_, hImports, .inr ⟨_, ⟨hComponent, rfl⟩, .inl hInfinite⟩⟩⟩⟩⟩⟩

/-- A section whose name is no text ends the reading of settings. -/
theorem exists_fault_of_unnamed (h : HasUnnamedSection entries) :
    ∃ fault, Settings.ofEntries shared entries = .error fault ∧ fault.kind = .type := by
  cases hSections : checkSections entries with
  | ok _ =>
    exact absurd (checkSections_eq_ok_iff.1 hSections) (not_known_of_unnamed h)
  | error fault =>
    refine ⟨fault, ?_, ?_⟩
    · unfold Settings.ofEntries
      rw [hSections]
      rfl
    · rcases kind_of_checkSections hSections with ⟨hKind, -⟩ | ⟨-, hNamed⟩
      · exact hKind
      · exact absurd h hNamed

end Refused

/-! ## Texts -/

section Texts

variable {bytes : List UInt8} {s : List Char} {shared : Collections} {value : Value}
  (hText : Utf8.decode? bytes = some s) (hValue : readValue s = .ok (shared, value))

include hText hValue

/-- Settings are read from the value of a text. -/
theorem readBytes_eq_ofValue : Settings.readBytes bytes = Settings.ofValue shared value := by
  rw [Settings.readBytes, hText]
  dsimp only
  rw [Settings.read, hValue]

/-- What is accepted from a text that holds a value, and what is wrong otherwise.  Settings are read
from nothing and from acceptable mappings.  All faults say that what is given cannot be used, but
for two: a section whose name is no text, and a size that is infinite, if all before it can be read.
-/
theorem configuration_faults :
    ((∃ c, Settings.readBytes bytes = .ok c) ↔ value.opened shared = .null ∨
      ∃ entries, value.opened shared = .mapping entries ∧ IsAcceptable shared entries) ∧
    ((∃ fault, Settings.readBytes bytes = .error fault ∧ fault.kind = .type) ↔
      ∃ entries, value.opened shared = .mapping entries ∧ HasUnnamedSection entries) ∧
    (Settings.readBytes bytes = .error .infiniteSize ↔
      ∃ entries, value.opened shared = .mapping entries ∧ ReachesInfinity shared entries) ∧
    ∀ fault, Settings.readBytes bytes = .error fault →
      fault.kind = .value ∨ fault.kind = .type ∨ fault = .infiniteSize := by
  rw [readBytes_eq_ofValue hText hValue, Settings.ofValue]
  split
  · next hNull =>
    rw [hNull]
    exact ⟨iff_of_true ⟨_, rfl⟩ (.inl rfl), iff_of_false nofun nofun, iff_of_false nofun nofun, nofun⟩
  · next entries hEntries =>
    have hSome {P : List (Value × Value) → Prop} :
        (∃ own, value.opened shared = .mapping own ∧ P own) ↔ P entries := by
      rw [hEntries]
      simp
    have hNull : value.opened shared ≠ .null := by
      rw [hEntries]
      exact nofun
    simp only [hSome, hNull, false_or]
    refine ⟨exists_ofEntries_iff, ⟨?_, exists_fault_of_unnamed⟩,
      ⟨?_, ofEntries_of_reachesInfinity⟩, ?_⟩
    · rintro ⟨fault, hFault, hKind⟩
      rcases kind_of_ofEntries hFault with ⟨-, hUnnamed⟩ | ⟨hValue, -⟩ | ⟨rfl, -⟩
      · exact hUnnamed
      · exact nomatch hKind.symm.trans hValue
      · cases hKind
    · intro hFault
      rcases kind_of_ofEntries hFault with ⟨hKind, -⟩ | ⟨hKind, -⟩ | ⟨-, hReaches⟩
      · cases hKind
      · cases hKind
      · exact hReaches
    · intro fault hFault
      rcases kind_of_ofEntries hFault with ⟨hKind, -⟩ | ⟨hKind, -⟩ | ⟨hInfinite, -⟩
      · exact .inr (.inl hKind)
      · exact .inl hKind
      · exact .inr (.inr hInfinite)
  · next hNoNull hNoMapping =>
    have hNone {P : List (Value × Value) → Prop} :
        ¬∃ own, value.opened shared = .mapping own ∧ P own := fun ⟨own, h, _⟩ => hNoMapping own h
    refine ⟨iff_of_false nofun ?_, iff_of_false ?_ hNone, iff_of_false nofun hNone, ?_⟩
    · exact fun h => h.elim hNoNull hNone
    · rintro ⟨fault, hFault, hKind⟩
      rw [← Except.error.inj hFault] at hKind
      cases hKind
    · intro fault hFault
      exact .inl (Except.error.inj hFault ▸ rfl)

end Texts

/-- A text whose size is infinite. -/
def infiniteSizeText : List Char := "component: {default_size: .inf}".toList

/-- The size of that text is come to, and is no integer. -/
theorem configuration_faults_infinite : ∃ shared value,
    readValue infiniteSizeText = .ok (shared, value) ∧
    Settings.readBytes (Utf8.encode infiniteSizeText) = .error .infiniteSize ∧
    ∃ entries, value.opened shared = .mapping entries ∧ ReachesInfinity shared entries := by
  have hFault : Settings.readBytes (Utf8.encode infiniteSizeText) = .error .infiniteSize := by
    decide +kernel
  have hText : Utf8.decode? (Utf8.encode infiniteSizeText) = some infiniteSizeText := by
    decide +kernel
  have hSome : (readValue infiniteSizeText).toOption.isSome = true := by decide +kernel
  cases hValue : readValue infiniteSizeText with
  | error fault =>
    rw [hValue] at hSome
    cases hSome
  | ok found =>
    obtain ⟨-, -, hInfinite, -⟩ := configuration_faults hText hValue
    exact ⟨found.1, found.2, rfl, hFault, hInfinite.1 hFault⟩

end SvgBuilder
