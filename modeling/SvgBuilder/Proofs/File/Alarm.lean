import SvgBuilder.Proofs.Comparison.Cover
import SvgBuilder.Proofs.Component.Documentation
import SvgBuilder.Proofs.File.Encodings

/-!
# Conversions without an alarm

A conversion warns of every kind of names that its module misses.  No other warning looks like that,
so a conversion raises no alarm if the comparison finds no differences.  Where a file holds a
document of tags in UTF-8, the comparison looks at the text that is read, and finds none if it is
fit for the document.

## Main results

* `isNoAlarm_assemble`: what is noted for a module is no alarm.
* `convertFile_no_alarm`: a document of tags that is fit for the comparison is converted without an
  alarm.
* `toList_moduleOf`: the characters of a module from those of its lines.
-/

namespace SvgBuilder

open SvgBuilder.Markup SvgBuilder.Number SvgBuilder.Text SvgBuilder.Comparison

/-! ## Warnings -/

/-- What a warning about missing names begins with. -/
def alarmOpenings : List String :=
  ["elements", "attributes"].map fun kind => "Missing " ++ kind ++ " in generated code: "

/-- Whether a text is no warning about missing names. -/
def IsNoAlarm (text : String) : Prop :=
  ∀ opening ∈ alarmOpenings, beginsWith opening text = false

instance (text : String) : Decidable (IsNoAlarm text) :=
  inferInstanceAs (Decidable (∀ opening ∈ alarmOpenings, beginsWith opening text = false))

theorem isNoAlarm_append (first : String)
    (h : ∀ opening ∈ alarmOpenings,
      ¬opening.toList <+: first.toList ∧ ¬first.toList <+: opening.toList) (rest : String) :
    IsNoAlarm (first ++ rest) := fun opening hOpening =>
  beginsWith_append_eq_false (h opening hOpening).1 (h opening hOpening).2 rest

/-- What is noted for a module is no warning about missing names. -/
theorem isNoAlarm_assemble (settings : Settings) (moduleName sourceName : String) (root : Element) :
    ∀ text ∈ Note.texts .warning (assemble settings moduleName sourceName root).notes,
      IsNoAlarm text := by
  intro text hText
  obtain ⟨n, hn, rfl⟩ := List.mem_map.1 hText
  obtain ⟨hMem, hLevel⟩ := List.mem_filter.1 hn
  have hOpenings : ∀ first ∈ warningOpenings, ∀ opening ∈ alarmOpenings,
      ¬opening.toList <+: first.toList ∧ ¬first.toList <+: opening.toList := by
    decide +kernel
  obtain rfl | ⟨first, hFirst, rest, hText⟩ :=
    warning_of_mem_assemble hMem (by simpa using hLevel)
  · decide +kernel
  · rw [hText]
    exact isNoAlarm_append first (hOpenings first hFirst) rest

/-! ## Documents of tags -/

/-- Whether a file holds a document of tags in UTF-8, with a view box for its module. -/
structure HoldsTags (content : List UInt8) (tags : RootTag) (root : Element) : Prop where
  encoding : ∃ rest, encodingOf content = .ok (.utf8, rest)
  text : ∃ prolog epilog, textOf content = .ok (prolog ++ tags.text ++ epilog) ∧
    Parts prolog [] tags.text epilog
  read : readDocument content = .ok root
  name : root.name.localName = "svg"
  box : (viewBox root).value ≠ ""

variable {settings : Settings} {content : List UInt8} {tags : RootTag} {root : Element}
  {fileName : CodeText}

theorem HoldsTags.exists_parts (h : HoldsTags content tags root) : ∃ prolog epilog,
    textOf content = .ok (prolog ++ tags.text ++ epilog) ∧ Parts prolog [] tags.text epilog ∧
      readCharacters (prolog ++ tags.text ++ epilog) = .ok root := by
  obtain ⟨prolog, epilog, hText, hParts⟩ := h.text
  refine ⟨prolog, epilog, hText, hParts, ?_⟩
  rw [← readDocument_of_textOf hText, h.read]

/-- What looks like a name in a quoted value of a document does not matter if its tags have that
name. -/
theorem HoldsTags.isShown (hHeader : IsFree (header settings).toList)
    (h : HoldsTags content tags root) (hFit : IsFit tags root)
    (hFile : IsFree fileName.shown.toList) {a : TagAttribute}
    (hElements : FindsOnly elementPattern (fun name => isNameOf isTagChar name = true ∧
      ∃ tag ∈ tags.tags, IsLocalPart name tag.name.1) none a.quoted [])
    (hAttributes : FindsOnly attributePattern (fun name => isNameOf isAttributeChar name = true ∧
      ∃ tag ∈ tags.tags, ∃ b ∈ tag.attributes, b.name.1 = name) none a.quoted []) :
    IsShown a (moduleOf settings fileName root) := by
  obtain ⟨prolog, epilog, hText, hParts, hRead⟩ := h.exists_parts
  exact isShown_of_own hHeader h.read hFile hFit h.name h.box (holds_of_parts hParts hRead)
    hElements hAttributes

/-- The comparison finds no differences in a document of tags that it is fit for. -/
theorem differencesFor_tags (hHeader : IsFree (header settings).toList)
    (h : HoldsTags content tags root) (hFit : IsFit tags root)
    (hFile : IsFree fileName.shown.toList)
    (hShown : ∀ tag ∈ tags.tags, ∀ a ∈ tag.attributes,
      IsShown a (moduleOf settings fileName root)) :
    differencesFor settings (String.ofList (Utf8.decodeLossy content))
      (moduleOf settings fileName root) = [] := by
  obtain ⟨rest, hEncoding⟩ := h.encoding
  obtain ⟨prolog, epilog, hText, hParts, hRead⟩ := h.exists_parts
  have hNone := differences_of_parts hHeader h.read hFile hRead hParts hFit h.name h.box hShown
  rw [differencesFor_congr (isSeen_utf8 hEncoding hText).inside, differencesFor, hNone, ite_self]

/-! ## Conversions -/

section Conversions

variable {before : Effect} {input : Path} {output : Option Path}
  (hSize : (writtenInteger? settings.defaultSize).isSome)
  (hWhole : (headerText settings).isWhole = true) (hName : input.name.isWhole = true)
  (hSource : IsSource before.store input output content)
  (hTarget : (output.map (outputPath input · settings.extension)).bind nameFault? = none)

include hSize hWhole hName hSource hTarget

/-- A document that can be read is converted, and what is noted is noted for its module or by the
comparison. -/
theorem exists_conversion (hRead : readDocument content = .ok root) :
    ∃ c, (convertFile settings before input output).1 = .ok c ∧
      c.differences = differencesFor settings (String.ofList (Utf8.decodeLossy content))
        (moduleOf settings input.name root) ∧
      c.isValid = c.differences.isEmpty ∧
      Note.texts .warning c.notes =
        Note.texts .warning (sourceModule settings input.name root).notes ++ c.differences := by
  have hModule : moduleFor settings input.name content =
      .ok (sourceModule settings input.name root) := by
    rw [moduleFor, hRead]
    exact if_neg (by simp [Option.isSome_iff_ne_none.1 hSize])
  have hSaid := convertFile_said hWhole hName hSource
  rw [verdict, hModule, hTarget] at hSaid
  cases hResult : (convertFile settings before input output).1 with
  | error failed =>
    rw [hResult] at hSaid
    cases hSaid
  | ok c =>
    rw [hResult] at hSaid
    obtain ⟨-, hWarnings, hDifferences, hValid⟩ := Verdict.mk.inj (Except.ok.inj hSaid)
    exact ⟨c, rfl, hDifferences, hDifferences ▸ hValid, hDifferences ▸ hWarnings⟩

/-- A document of tags that is fit for the comparison is converted without an alarm, with all
settings whose header is free, if what looks like a name in a quoted value is in the module, too. -/
theorem convertFile_no_alarm (hHeader : IsFree (header settings).toList)
    (hFile : IsFree input.name.shown.toList) (h : HoldsTags content tags root)
    (hFit : IsFit tags root) (hShown : ∀ tag ∈ tags.tags, ∀ a ∈ tag.attributes,
      IsShown a (moduleOf settings input.name root)) :
    ∃ c, (convertFile settings before input output).1 = .ok c ∧ c.isValid = true ∧
      c.differences = [] ∧ ∀ text ∈ Note.texts .warning c.notes, IsNoAlarm text := by
  obtain ⟨c, hConverted, hDifferences, hValid, hWarnings⟩ :=
    exists_conversion hSize hWhole hName hSource hTarget h.read
  rw [differencesFor_tags hHeader h hFit hFile hShown] at hDifferences
  refine ⟨c, hConverted, ?_, hDifferences, ?_⟩
  · rw [hValid, hDifferences]
    rfl
  · rw [hWarnings, hDifferences, List.append_nil]
    exact isNoAlarm_assemble settings _ input.name.shown root

end Conversions

/-! ## Documents without a prolog -/

/-- A text that is read as a root element from its beginning to its end. -/
theorem parts_alone {s : List Char}
    (hHeading : (readHeading? s).toOption.map (·.2) = some s)
    (hMisc : ((skipMisc (s.length + 1) s).run (.start 0)).toOption.map (·.1) = some s)
    (hRead : (readRoot (normalized s)).toOption.map (·.2) = some [])
    (hClosed : s.getLast? = some '>') : Parts [] [] s [] := by
  obtain ⟨⟨heading, after⟩, hHeading, rfl⟩ := exists_ok_of_toOption hHeading
  obtain ⟨⟨draft, rest⟩, hRead, rfl⟩ := exists_ok_of_toOption hRead
  have hEnd : Gives (skipMisc 1 []) [] := Gives.of_run (s := .start 0) rfl
  refine ⟨?_, ⟨draft, ?_⟩, ?_, hEnd⟩
  · simpa using HasProlog.bare hHeading (Gives.of_run hMisc)
  · rw [List.append_nil]
    exact hRead
  · exact List.getLast?_eq_some_iff.1 hClosed

/-- A name in a tag. -/
def writtenName (s : String) (h : s.toList ≠ [] ∧ s.toList.all isNameChar = true) : WrittenName :=
  ⟨s.toList, h.1, List.all_eq_true.1 h.2⟩

def noBlanks : Blanks := ⟨[], fun _ hc => absurd hc List.not_mem_nil⟩

/-- An attribute as it is written most often. -/
def plainAttribute (name : WrittenName) (value : String)
    (h : value.toList.all (fun c => c ≠ '\x27' && c ≠ '<') = true) : TagAttribute where
  before := ⟨[' '], by simp [isSpace]⟩
  name := name
  behindName := noBlanks
  behindSign := noBlanks
  quote := '\x27'
  value := value.toList
  separated := by simp
  isQuote := .inr rfl
  ends := by simpa using h

/-- A document with an attribute in a namespace, whose value looks like another one. -/
def prefixedTags : RootTag :=
  .branch ⟨writtenName "svg" (by decide), [
      plainAttribute (writtenName "viewBox" (by decide)) "0 0 1 1" (by decide),
      plainAttribute (writtenName "xmlns:p" (by decide)) "u" (by decide)], noBlanks⟩
    (.leaf noBlanks ⟨writtenName "a" (by decide),
      [plainAttribute (writtenName "p:x" (by decide)) "viewBox=\x221\x22" (by decide)], noBlanks⟩
      (.nil noBlanks))
    noBlanks

example : prefixedTags.text =
    "<svg viewBox='0 0 1 1' xmlns:p='u'><a p:x='viewBox=\"1\"'/></svg>".toList := by
  decide

/-- The document holds tags, and the comparison is fit for it. -/
theorem exists_isFit_prefixedTags : ∃ root,
    HoldsTags (Utf8.encode prefixedTags.text) prefixedTags root ∧ IsFit prefixedTags root := by
  obtain ⟨root, hRead, hRoot⟩ := exists_of_readsWith (by decide +kernel : readsWith (fun root =>
    decide (IsFreeDocument root ∧ root.name.localName = "svg" ∧ (viewBox root).value ≠ "" ∧
      (∀ e ∈ root.elements, e.name.localName ≠ "svgAttr" ∧ ':' ∉ e.name.localName.toList ∧
        '\x7d' ∉ e.name.localName.toList) ∧
      (∀ e ∈ root.elements, ∀ a ∈ e.attributes, '\x7d' ∉ a.name.localName.toList) ∧
      root.elements.flatMap Element.bindings = [⟨some "p", "u"⟩] ∧
      ∀ tag ∈ prefixedTags.tags, ∀ a ∈ tag.attributes, IsDeclaration a.name.1 →
        ∃ e ∈ root.elements, ∃ b ∈ e.bindings, b.uri ≠ "" ∧ b.attributeName.toList = a.name.1))
    (String.ofList prefixedTags.text) = true)
  obtain ⟨hFree, hName, hBox, hElements, hAttributes, hBindings, hDeclarations⟩ :=
    of_decide_eq_true hRoot
  rw [readString, String.toList_ofList] at hRead
  have hLabels : Scope.HasOneLabel (root.elements.flatMap Element.bindings) := by
    rw [hBindings]
    intro p q uri hp hq
    simp_all
  refine ⟨root, ⟨⟨Utf8.encode prefixedTags.text, by decide +kernel⟩, ⟨[], [], by decide +kernel, ?_⟩,
    hRead, hName, hBox⟩, ?_⟩
  · exact parts_alone (by decide +kernel) (by decide +kernel) (by decide +kernel) (by decide +kernel)
  · exact ⟨by decide +kernel, hFree, hElements, hAttributes, everywhere_hasOneLabel hLabels,
      hDeclarations⟩

/-- What looks like a name in a value of that document is a name of its tags. -/
theorem isShown_prefixedTags {root : Element}
    (h : HoldsTags (Utf8.encode prefixedTags.text) prefixedTags root)
    (hFit : IsFit prefixedTags root) : ∀ tag ∈ prefixedTags.tags, ∀ a ∈ tag.attributes,
      IsShown a (moduleOf .default (Path.read "a.svg").name root) := by
  have hElements : ∀ tag ∈ prefixedTags.tags, ∀ a ∈ tag.attributes,
      FindsOnly elementPattern (fun _ => False) none a.quoted [] := by decide +kernel
  have hAttributes : ∀ tag ∈ prefixedTags.tags, ∀ a ∈ tag.attributes,
      FindsOnly attributePattern (fun name => isNameOf isAttributeChar name = true ∧
        ∃ tag ∈ prefixedTags.tags, ∃ b ∈ tag.attributes, b.name.1 = name) none a.quoted [] := by
    decide +kernel
  intro tag hTag a ha
  exact h.isShown isFree_header_default hFit (by decide +kernel)
    ((hElements tag hTag a ha).imp fun _ => False.elim) (hAttributes tag hTag a ha)

/-- The conversion of that document. -/
theorem convertFile_no_alarm_prefixed : ∃ c,
    (convertFile Settings.default (accentEffect (Utf8.encode prefixedTags.text)) (Path.read "a.svg")
      none).1 = .ok c ∧ c.isValid = true ∧ c.differences = [] ∧
      ∀ text ∈ Note.texts .warning c.notes, IsNoAlarm text := by
  obtain ⟨root, hHolds, hFit⟩ := exists_isFit_prefixedTags
  have hSource : IsSource (accentEffect (Utf8.encode prefixedTags.text)).store (Path.read "a.svg")
      none (Utf8.encode prefixedTags.text) := ⟨by decide +kernel, by decide +kernel⟩
  exact convertFile_no_alarm (by decide +kernel) (by decide +kernel) (by decide +kernel) hSource rfl
    isFree_header_default (by decide +kernel) hHolds hFit (isShown_prefixedTags hHolds hFit)

/-- A document with a value that looks like an attribute. -/
def quotedTags : RootTag :=
  .leaf ⟨writtenName "svg" (by decide), [
    plainAttribute (writtenName "viewBox" (by decide)) "0 0 1 1" (by decide),
    plainAttribute (writtenName "a" (by decide)) "b=\x22c\x22" (by decide)], noBlanks⟩

theorem differences_ne_nil {document generated name : String} (h : name ∈ attributeNames document)
    (hMissing : name ∉ attributeNames generated) : differences document generated ≠ [] := by
  have hName := mem_missing_iff.2 ⟨h, hMissing⟩
  intro hNone
  have hMessage := (List.append_eq_nil_iff.1 hNone).2
  unfold missingMessage at hMessage
  split at hMessage
  · next hEmpty =>
    rw [List.isEmpty_iff.1 hEmpty] at hName
    cases hName
  · cases hMessage

/-- The characters of a module, put together from those of its lines. -/
def moduleChars (settings : Settings) (fileName : CodeText) (root : Element) : List Char :=
  let documentationChars := List.intercalate ['\n']
    ("/**".toList :: ((documentationBody root).map String.toList ++ [" */".toList]))
  let signature := (openingLines settings (moduleName fileName).shown fileName.shown root).drop 3
  let call := List.intercalate itemSeparator.toList
    ((Item.renders (rootItems settings root).value).map String.toList)
  let margin := argumentMargin.toList
  List.intercalate "\n".toList ((header settings).toList :: "".toList :: documentationChars ::
    signature.map String.toList) ++ "\n    ".toList ++
    ("svg.svg(\n".toList ++ (Source.lineMargin margin call ++ Source.indentTail margin call) ++
      "\n    )".toList) ++ (closing settings root).toList

theorem toList_moduleOf (settings : Settings) (fileName : CodeText) (root : Element) :
    (moduleOf settings fileName root).toList = moduleChars settings fileName root := by
  have hLines : openingLines settings (moduleName fileName).shown fileName.shown root =
      header settings :: "" :: documentation root ::
        (openingLines settings (moduleName fileName).shown fileName.shown root).drop 3 := rfl
  have hCall : (Item.content (rootItems settings root).value).toList =
      List.intercalate itemSeparator.toList
        ((Item.renders (rootItems settings root).value).map String.toList) := by
    rw [Item.content, joined, String.toList_intercalate]
  rw [moduleOf, value_assemble, String.toList_append, String.toList_append, opening,
    String.toList_append, hLines, joined, String.toList_intercalate, List.map_cons, List.map_cons,
    List.map_cons, toList_documentation, rootCall, String.toList_append, String.toList_append,
    Source.toList_indented, hCall, moduleChars]

/-- What stands inside of a module that ends with the call of its root. -/
theorem inside_of_call {front : List Char} :
    inside ('i' :: front ++ ')' :: ['\n']) = 'i' :: front ++ [')'] := by
  have hBreak : ∀ c ∈ ['\n'], isBlank c = true := by
    intro c hc
    rw [List.mem_singleton.1 hc]
    decide
  exact inside_append (by decide) (by decide) (by decide) (fun c hc => absurd hc List.not_mem_nil)
    (by decide) (by decide) hBreak front

/-- That value is taken for an attribute that the module misses, so the conversion of a document of
tags raises an alarm. -/
theorem alarm_for_quoted_attribute : ∃ root,
    HoldsTags (Utf8.encode quotedTags.text) quotedTags root ∧
    ∃ c, (convertFile Settings.default (accentEffect (Utf8.encode quotedTags.text))
      (Path.read "a.svg") none).1 = .ok c ∧ c.isValid = false := by
  obtain ⟨root, hRead, hRoot⟩ := exists_of_readsWith (by decide +kernel : readsWith (fun root =>
    let code := moduleChars .default "a.svg" root
    let front := (code.drop 1).dropLast.dropLast
    decide (root.name.localName = "svg" ∧ (viewBox root).value ≠ "" ∧
      code = 'i' :: front ++ ')' :: ['\n'] ∧
      ∀ name ∈ findings attributePattern ('i' :: front ++ [')']),
        normalizedName (String.ofList name) ≠ "b"))
    (String.ofList quotedTags.text) = true)
  obtain ⟨hName, hBox, hCode, hFindings⟩ := of_decide_eq_true hRoot
  rw [readString, String.toList_ofList] at hRead
  have hEncoding : encodingOf (Utf8.encode quotedTags.text) =
      .ok (.utf8, Utf8.encode quotedTags.text) := by decide +kernel
  have hText : textOf (Utf8.encode quotedTags.text) = .ok quotedTags.text := by decide +kernel
  have hParts : Parts [] [] quotedTags.text [] :=
    parts_alone (by decide +kernel) (by decide +kernel) (by decide +kernel) (by decide +kernel)
  have hInside : inside quotedTags.text = quotedTags.text := by simpa using inside_tags hParts
  refine ⟨root, ⟨⟨_, hEncoding⟩, ⟨[], [], ?_, hParts⟩, hRead, hName, hBox⟩, ?_⟩
  · rw [hText, List.nil_append, List.append_nil]
  have hSource : IsSource (accentEffect (Utf8.encode quotedTags.text)).store (Path.read "a.svg")
      none (Utf8.encode quotedTags.text) := ⟨by decide +kernel, by decide +kernel⟩
  have hSize : (writtenInteger? Settings.default.defaultSize).isSome := by decide +kernel
  have hWhole : (headerText Settings.default).isWhole = true := by decide +kernel
  have hFile : (Path.read "a.svg").name.isWhole = true := by decide +kernel
  obtain ⟨c, hConverted, hDifferences, hValid, -⟩ :=
    exists_conversion hSize hWhole hFile hSource rfl hRead
  refine ⟨c, hConverted, ?_⟩
  rw [hValid, List.isEmpty_eq_false_iff, hDifferences,
    differencesFor_congr (isSeen_utf8 hEncoding hText).inside]
  have hDocument : "b" ∈ attributeNames (String.ofList quotedTags.text) := by
    have hFound : ['b'] ∈ findings attributePattern quotedTags.text := by decide +kernel
    rw [attributeNames, names, mem_sorted, String.toList_ofList, hInside]
    exact List.mem_map.2 ⟨_, hFound, by decide⟩
  have hModule : "b" ∉ attributeNames (moduleOf .default "a.svg" root) := by
    rw [attributeNames, names, mem_sorted, toList_moduleOf, hCode, inside_of_call]
    intro hMem
    obtain ⟨name, hFound, hSame⟩ := List.mem_map.1 hMem
    exact hFindings name hFound hSame
  exact differences_ne_nil hDocument hModule

end SvgBuilder
