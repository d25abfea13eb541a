import SvgBuilder.Proofs.Component.Assembly
import SvgBuilder.Proofs.Component.Refusal
import SvgBuilder.Proofs.File.Outputs
import SvgBuilder.Proofs.Number.Digits

/-!
# The size in a module

The parameter for the size of an image is an integer of 32 bits, and its default is the size of the
settings, written out in digits.  Reading settings bounds the size from below only: an integer, a
number with a point or a text of digits may give any integer from one on.  So the default is the
integer that was given, and it fits its type exactly if that does.  A default of too many digits is
never delivered, as the conversion ends without a result then.

## Main results

* `defaultSize_of_ofEntries`: the size that is read is the integer that was given.
* `value_assemble_size`: the line of the size in a module.
* `size_written_as_given`: which sizes stand in modules, and which of them fit.
-/

namespace SvgBuilder

open SvgBuilder.Markup SvgBuilder.Number SvgBuilder.Text SvgBuilder.Yaml

/-! ## Sizes that are read -/

/-- The largest integer of 32 bits. -/
def maxSize : Int := 2147483647

/-- The values that give an integer which is too large for 32 bits: such integers, numbers with a
point that are as large, and the texts and bytes of such integers. -/
inductive IsLargeSize : Value → Prop
  | integer {i : Int} (h : maxSize < i) : IsLargeSize (.integer i)
  | float {negative : Bool} {rank : Fin finiteRanks}
    (h : maxSize < Double.withSign negative (Double.integerPart rank)) :
    IsLargeSize (.float (.finite negative rank))
  | text {s : String} {i : Int} (hRead : readInteger? s.toList = some i) (h : maxSize < i) :
    IsLargeSize (.text s)
  | bytes {bs : List UInt8} {i : Int} (hRead : (asciiText? bs).bind readInteger? = some i)
    (h : maxSize < i) : IsLargeSize (.bytes bs)

/-- The values of large sizes are those that give a large integer. -/
theorem isLargeSize_iff {v : Value} :
    IsLargeSize v ↔ ∃ i, givenInteger? v = some i ∧ maxSize < i := by
  constructor
  · intro hLarge
    cases hLarge with
    | integer h => exact ⟨_, rfl, h⟩
    | float h => exact ⟨_, rfl, h⟩
    | text hRead h => exact ⟨_, hRead, h⟩
    | bytes hRead h => exact ⟨_, hRead, h⟩
  · rintro ⟨i, hGiven, hLarge⟩
    cases v with
    | truth b =>
      -- a truth value counts as one at most
      obtain rfl := Option.some.inj hGiven
      exact absurd hLarge (by cases b <;> decide)
    | integer j =>
      obtain rfl := Option.some.inj hGiven
      exact .integer hLarge
    | float x =>
      cases x with
      | finite negative rank =>
        obtain rfl := Option.some.inj hGiven
        exact .float hLarge
      | _ => cases hGiven
    | text s => exact .text hGiven hLarge
    | bytes bs => exact .bytes hGiven hLarge
    | _ => cases hGiven

section Read

variable {shared : Collections} {entries : List (Value × Value)} {c : Settings}

/-- The integer that a mapping gives for the size; without a value for it that is the default. -/
def givenSize? (shared : Collections) (entries : List (Value × Value)) : Option Int :=
  match Setting.defaultSize.value? shared entries with
  | none => some Settings.default.defaultSize
  | some v => givenInteger? v

/-- The size that is read is the integer that was given, and is positive. -/
theorem defaultSize_of_ofEntries (h : Settings.ofEntries shared entries = .ok c) :
    givenSize? shared entries = some c.defaultSize ∧ 1 ≤ c.defaultSize := by
  have hSize := (ofEntries_eq_ok_iff.1 h).defaultSize
  unfold givenSize?
  cases hValue : Setting.defaultSize.value? shared entries with
  | none =>
    rw [hValue] at hSize
    rw [← Except.ok.inj hSize]
    exact ⟨rfl, by decide⟩
  | some v =>
    rw [hValue] at hSize
    obtain ⟨hInteger, hPositive⟩ := readSize_eq_ok_iff.1 hSize
    exact ⟨readSizeInteger_eq_ok_iff.1 hInteger, hPositive⟩

/-- The size that is read fits in 32 bits exactly if no large one was given. -/
theorem defaultSize_le_iff (h : Settings.ofEntries shared entries = .ok c) :
    c.defaultSize ≤ maxSize ↔
      ∀ v, Setting.defaultSize.value? shared entries = some v → ¬IsLargeSize v := by
  have hGiven := (defaultSize_of_ofEntries h).1
  unfold givenSize? at hGiven
  cases hValue : Setting.defaultSize.value? shared entries with
  | none =>
    rw [hValue] at hGiven
    rw [← Option.some.inj hGiven]
    exact iff_of_true (by decide) nofun
  | some v =>
    rw [hValue] at hGiven
    dsimp only at hGiven
    simp only [Option.some.injEq, forall_eq', isLargeSize_iff, hGiven]
    simp

end Read

/-! ## The line of the size -/

/-- The lines of a module before the one of the size. -/
def linesBeforeSize (settings : Settings) (moduleName sourceName : String) (root : Element) :
    List String := [
  header settings, "", documentation root,
  "object " ++ moduleName ++ ":",
  "  // Generated from SVG file: " ++ sourceName,
  "  def apply("]

/-- The line of the size, with the text of its default. -/
def sizeLine (size : String) : String := "    size: Int = " ++ size ++ ","

/-- The line of the size in a module. -/
theorem value_assemble_size (settings : Settings) (moduleName sourceName : String) (root : Element) :
    ∃ behind, (assemble settings moduleName sourceName root).value =
      joined "\n" (linesBeforeSize settings moduleName sourceName root) ++ "\n" ++
        sizeLine (integerText settings.defaultSize) ++ "\n" ++ behind := by
  have hLines : openingLines settings moduleName sourceName root =
      linesBeforeSize settings moduleName sourceName root ++
        (sizeLine (integerText settings.defaultSize) :: "    className: Option[String] = None," ::
          ["    customAttributes: Seq[Modifier[SvgElement]] = Seq.empty", "  ): SvgElement ="]) := rfl
  rw [value_assemble, opening, hLines, linesBeforeSize, joined_append, List.map_cons, List.map_cons,
    String.join_cons, String.join_cons]
  simp only [String.append_assoc]
  exact ⟨_, rfl⟩

/-! ## Sizes in modules -/

/-- Whether a text is a run of digits for an integer from one to the largest one of 32 bits. -/
structure IsIntLiteral (text : String) : Prop where
  digits : IsDigits text.toList
  positive : 1 ≤ valueOf text.toList
  bounded : (valueOf text.toList : Int) ≤ maxSize

theorem isIntLiteral_integerText {i : Int} (h : 1 ≤ i) :
    IsIntLiteral (integerText i) ↔ i ≤ maxSize := by
  obtain ⟨n, rfl⟩ := Int.eq_ofNat_of_zero_le (by omega : 0 ≤ i)
  have hText : (integerText n).toList = decimal n := String.toList_ofList
  have hDigits := isDigits_decimal n
  have hValue := valueOf_decimal n
  constructor
  · intro hLiteral
    have hBounded := hLiteral.bounded
    rwa [hText, hValue] at hBounded
  · intro hFits
    refine ⟨?_, ?_, ?_⟩
    · rwa [hText]
    · rw [hText, hValue]
      omega
    · rwa [hText, hValue]

/-- Every module of settings that are read from a mapping has the line of the size, with the integer
that the mapping gives, or the default, written out in digits.  That is a positive integer, and it
is one of 32 bits exactly if no large size is given, be it an integer, a number with a point, or a
text.  The modules that conversions deliver are such modules, and their sizes have no more digits
than are written. -/
theorem size_written_as_given {shared : Collections} {entries : List (Value × Value)} {c : Settings}
    (h : Settings.ofEntries shared entries = .ok c) (name sourceName : String)
    (root : Element) :
    ∃ (n : Nat) (text behind : String),
      (assemble c name sourceName root).value =
        joined "\n" (linesBeforeSize c name sourceName root) ++ "\n" ++ sizeLine text ++
          "\n" ++ behind ∧
      IsDigits text.toList ∧ valueOf text.toList = n ∧
      1 ≤ n ∧ givenSize? shared entries = some (n : Int) ∧
      (IsIntLiteral text ↔
        ∀ v, Setting.defaultSize.value? shared entries = some v → ¬IsLargeSize v) ∧
      ∀ before input output conversion after,
        convertFile c before input output = (.ok conversion, after) →
        text.toList.length ≤ maxWrittenDigits ∧
        ∃ root, conversion.code = (sourceModule c input.name root).value := by
  obtain ⟨hGiven, hPositive⟩ := defaultSize_of_ofEntries h
  obtain ⟨n, hSize⟩ := Int.eq_ofNat_of_zero_le (by omega : 0 ≤ c.defaultSize)
  obtain ⟨behind, hModule⟩ := value_assemble_size c name sourceName root
  have hText : (integerText n).toList = decimal n := String.toList_ofList
  refine ⟨n, integerText n, behind, ?_, ?_, ?_, by omega, ?_, ?_, ?_⟩
  · rw [hModule, hSize]
  · rw [hText]
    exact isDigits_decimal n
  · rw [hText, valueOf_decimal]
  · rw [hGiven, hSize]
  · rw [← defaultSize_le_iff h, ← isIntLiteral_integerText hPositive, hSize]
  · intro before input output conversion after hConversion
    have hWritten := isSome_writtenInteger?_of_convertFile hConversion
    rw [hSize, writtenInteger?] at hWritten
    obtain ⟨-, root, -, -, hCode⟩ := (made_of_convertFile hConversion).code
    refine ⟨?_, root, hCode⟩
    rw [hText]
    split at hWritten
    · exact nomatch hWritten
    · next hShort => simpa using hShort

/-- A mapping whose size is a text with a sign, a blank and underscores. -/
def largeSizeEntries : List (Value × Value) :=
  [(.text "component", .mapping [(.text "default_size", .text " +2_147_483_648")])]

/-- The settings that are read from it. -/
def largeSizeSettings : Settings := { Settings.default with defaultSize := 2147483648 }

/-- A root without anything in it. -/
def bareRoot : Element := ⟨⟨none, "svg"⟩, [], [], []⟩

/-- That size is accepted and stands in the module, and does not fit. -/
theorem size_written_as_given_large :
    Settings.ofEntries #[] largeSizeEntries = .ok largeSizeSettings ∧
    ∃ text behind, (assemble largeSizeSettings "A" "a.svg" bareRoot).value =
        joined "\n" (linesBeforeSize largeSizeSettings "A" "a.svg" bareRoot) ++ "\n" ++
          sizeLine text ++ "\n" ++ behind ∧
      valueOf text.toList = 2147483648 ∧ ¬IsIntLiteral text := by
  have hSettings : Settings.ofEntries #[] largeSizeEntries = .ok largeSizeSettings := rfl
  have hValue : Setting.defaultSize.value? #[] largeSizeEntries =
      some (.text " +2_147_483_648") := rfl
  have hGiven : givenSize? #[] largeSizeEntries = some 2147483648 := rfl
  obtain ⟨n, text, behind, hModule, -, hNumber, -, hSize, hFits, -⟩ :=
    size_written_as_given hSettings "A" "a.svg" bareRoot
  rw [hGiven, Option.some.injEq] at hSize
  refine ⟨hSettings, text, behind, hModule, by omega, fun hLiteral => ?_⟩
  exact hFits.1 hLiteral _ hValue (.text rfl (by decide : maxSize < 2147483648))

end SvgBuilder
