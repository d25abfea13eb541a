import SvgBuilder.Proofs.Builder.Namespaces
import SvgBuilder.Proofs.Comparison.Recognition
import SvgBuilder.Proofs.Comparison.Tags

/-!
# Modules that cover their documents

The names that are found in a document of tags are found in its module, too, if the comparison of
names is fit for the document: if a name that is found in a tag is that of an element, of an
attribute or of a declaration, and stands in the module in the form in which it is written.  What
looks like a name in a quoted value has to be found in the module as well, as it is if the tags have
that name themselves.  The name of an element is that of its call.  The name of an attribute is
written with a prefix, and the module uses the first one that stands for the namespace.  A
declaration is stated by the element that introduces the binding, which may stand further out.

## Main results

* `qualified_of_expands`: the name of an attribute in the module is the written one.
* `Place.exists_stating`: every binding that is used is stated somewhere.
* `isShown_of_own`: names of the tags themselves may stand in quoted values.
* `differences_of_parts`: a document that is fit for the comparison misses nothing in its module.
-/

namespace SvgBuilder

open SvgBuilder.Markup SvgBuilder.Text SvgBuilder.Source SvgBuilder.Comparison

/-! ## Documents that are fit for the comparison -/

/-- Whether no two prefixes of a scope stand for one namespace. -/
def Markup.Scope.HasOneLabel (scope : Scope) : Prop :=
  ∀ p q uri, ⟨some p, uri⟩ ∈ scope → ⟨some q, uri⟩ ∈ scope → p = q

/-- Whether the comparison of names is fit for a document of tags. -/
structure IsFit (tags : RootTag) (root : Element) : Prop where
  clear : ∀ tag ∈ tags.tags, IsClearTag tag
  free : IsFreeDocument root
  /-- Names with a colon keep a prefix that is not declared; a name goes on in front of a closing
  brace if its namespace does. -/
  elements : ∀ e ∈ root.elements, e.name.localName ≠ "svgAttr" ∧
    ':' ∉ e.name.localName.toList ∧ '\x7d' ∉ e.name.localName.toList
  attributes : ∀ e ∈ root.elements, ∀ a ∈ e.attributes, '\x7d' ∉ a.name.localName.toList
  labels : (Place.ofRoot root).Everywhere fun outer e => (Scope.enter e.bindings outer).HasOneLabel
  /-- What is declared is bound by some element. -/
  declarations : ∀ tag ∈ tags.tags, ∀ a ∈ tag.attributes, IsDeclaration a.name.1 →
    ∃ e ∈ root.elements, ∃ b ∈ e.bindings, b.uri ≠ "" ∧ b.attributeName.toList = a.name.1

/-- Whether what looks like a name in a quoted value is found in a text. -/
structure IsShown (a : TagAttribute) (text : String) : Prop where
  elements : FindsOnly elementPattern
    (fun name => normalizedName (String.ofList name) ∈ elementNames text) none a.quoted []
  attributes : FindsOnly attributePattern
    (fun name => normalizedName (String.ofList name) ∈ attributeNames text) none a.quoted []

/-- No two prefixes stand for one namespace anywhere if no two are declared for one. -/
theorem everywhere_hasOneLabel {root : Element}
    (h : Scope.HasOneLabel (root.elements.flatMap Element.bindings)) :
    (Place.ofRoot root).Everywhere fun outer e => (Scope.enter e.bindings outer).HasOneLabel := by
  intro path inner e hInner he p q uri hp hq
  have hDeclared {b : Binding} (hb : b ∈ Scope.enter e.bindings inner.outer) :
      b ∈ root.elements.flatMap Element.bindings := by
    have hWithin := within_of_follow? hInner
    rcases mem_of_mem_enter hb with hOwn | hOuter
    · exact List.mem_flatMap.2 ⟨e, hWithin.element he, hOwn⟩
    · exact List.mem_flatMap.2 (hWithin.outer b hOuter)
  exact h p q uri (hDeclared hp) (hDeclared hq)

/-! ## Names of elements -/

variable {scope : Scope} {written name : List Char} {read : Name} {root : Element}
  {settings : Settings} {fileName : CodeText}

/-- What stands behind the last character of a kind. -/
theorem eq_of_last {c : Char} {s t u v : List Char} (h : s ++ c :: u = t ++ c :: v) (hu : c ∉ u)
    (hv : c ∉ v) : u = v := by
  have hReverse : u.reverse ++ c :: s.reverse = v.reverse ++ c :: t.reverse := by
    simpa using congrArg List.reverse h
  have hSame := eq_of_first (p := (· = c)) hReverse (fun d hd => ?_) (fun d hd => ?_) (by simp)
    (by simp)
  · exact List.reverse_injective hSame
  · rw [decide_eq_false_iff_not]
    rintro rfl
    exact hu (List.mem_reverse.1 hd)
  · rw [decide_eq_false_iff_not]
    rintro rfl
    exact hv (List.mem_reverse.1 hd)

theorem not_mem_colon_of_isTagName (h : isNameOf isTagChar name = true) : ':' ∉ name := by
  cases name with
  | nil => cases h
  | cons c name =>
    obtain ⟨hc, hName⟩ := isInitial_of_isNameOf h
    intro hMem
    rcases List.mem_cons.1 hMem with rfl | hMem
    · exact absurd hc (by decide)
    · exact absurd (hName _ hMem) (by decide)

/-- What is found of a written name is the local part of what it stands for. -/
theorem localName_of_expands {default : Option String} (h : scope.Expands default written read)
    (hColon : ':' ∉ read.localName.toList) (hName : isNameOf isTagChar name = true)
    (hLocal : IsLocalPart name written) : read.localName.toList = name := by
  have hFree := not_mem_colon_of_isTagName hName
  have hPlain (hWritten : ':' ∉ written) : written = name := by
    rcases hLocal with hSame | ⟨label, hSame⟩
    · exact hSame
    · exact absurd (by simp [hSame]) hWritten
  cases h with
  | plain =>
    rw [String.toList_ofList] at hColon ⊢
    exact hPlain hColon
  | undeclared =>
    rw [String.toList_ofList] at hColon ⊢
    exact hPlain hColon
  | spaced label l uri hl =>
    have hText : (label ++ ":" ++ l).toList = label.toList ++ ':' :: l.toList := by
      simp
    rcases hLocal with hSame | ⟨label', hSame⟩
    · rw [← hSame, hText] at hFree
      exact absurd (by simp) hFree
    · rw [hText] at hSame
      exact eq_of_last hSame (not_mem_colon_of_isLocalName hl) hFree

theorem isMemberName_of_isTagName (h : isNameOf isTagChar name = true) (hDot : '.' ∉ name) :
    isMemberName name = true := by
  cases name with
  | nil => cases h
  | cons c name =>
    obtain ⟨hc, hName⟩ := isInitial_of_isNameOf h
    refine Bool.and_eq_true_iff.2 ⟨hc, List.all_eq_true.2 fun d hd => ?_⟩
    have hPoint : d ≠ '.' := by
      rintro rfl
      exact hDot (List.mem_cons_of_mem _ hd)
    simpa [isMemberChar, isTagChar, hPoint] using hName d hd

/-- The name of the element of a tag is found in the module. -/
theorem elementName_covered {tags : RootTag} (hFit : IsFit tags root)
    (hSvg : root.name.localName = "svg")
    (hHas : ∀ tag ∈ tags.tags, (Place.ofRoot root).Has tag.names) {tag : Tag}
    (hTag : tag ∈ tags.tags) (hName : isNameOf isTagChar name = true)
    (hLocal : IsLocalPart name tag.name.1) :
    normalizedName (String.ofList name) ∈ elementNames (moduleOf settings fileName root) := by
  obtain ⟨path, place, e, hPlace, he, hNames⟩ := hHas tag hTag
  obtain ⟨hMethod, hColon, hBrace⟩ := hFit.elements e ((within_of_follow? hPlace).element he)
  obtain ⟨read, hExpands, hRead⟩ := hNames.name
  rw [hRead] at hBrace
  rw [Name.reread_eq_self hBrace] at hRead
  have hSame : e.name.localName.toList = name := by
    rw [hRead] at hColon ⊢
    exact localName_of_expands hExpands hColon hName hLocal
  have hDot : '.' ∉ name := by
    intro hMem
    have hWritten : '.' ∈ tag.name.1 := by
      rcases hLocal with hText | ⟨label, hText⟩ <;> rw [hText] <;> simp [hMem]
    exact ((hFit.clear tag hTag).name '.' hWritten).1 rfl
  rw [← hSame, String.ofList_toList]
  cases path with
  | nil =>
    obtain rfl := Option.some.inj hPlace
    obtain rfl : root = e := Option.some.inj he
    rw [hSvg, show normalizedName "svg" = "svg" by decide]
    exact mem_elementNames_root settings fileName root
  | cons index path =>
    have hLabel : isMemberName e.name.localName.toList = true :=
      hSame ▸ isMemberName_of_isTagName hName hDot
    exact mem_elementNames_call fileName hLabel hMethod (shows_call hPlace (by simp) he hLabel)

/-! ## Names of attributes -/

/-- The flat name of an attribute is the written one, unless another prefix stands for the same
namespace. -/
theorem qualified_of_expands (hProper : scope.IsProper) (hLabels : scope.HasOneLabel)
    (h : scope.Expands none written read) : qualified scope read = String.ofList written := by
  cases h with
  | plain => exact qualified_plain scope _
  | undeclared => exact qualified_plain scope _
  | spaced label l uri hl hUri =>
    obtain ⟨found, hFound, -, -, hWrites⟩ := hProper.exists_label hUri
    have hSame : found = label := by
      unfold Scope.Writes at hWrites
      unfold spaceOf? at hUri
      split at hUri
      · next hMarkup =>
        obtain rfl := Option.some.inj hUri
        rw [if_pos rfl] at hWrites
        rw [hWrites, hMarkup]
      · have hMem := hProper.uri?_eq_some_iff.1 hUri
        rw [if_neg (hProper.bindings _ hMem).uri] at hWrites
        exact hLabels _ _ uri hWrites.2 hMem
    rw [String.ofList_toList]
    simp only [qualified, hFound, hSame]

theorem exists_mem_attributeMap {skipped : List String} {attributes : List Attribute}
    {a : Attribute} (ha : a ∈ attributes) (hKept : qualified scope a.name ∉ skipped) :
    ∃ entry ∈ attributeMap scope skipped attributes, entry.1 = qualified scope a.name := by
  have hPair : (qualified scope a.name, a.value) ∈
      (attributes.map fun a => (qualified scope a.name, a.value)).filter fun entry =>
        entry.1 ∉ skipped :=
    List.mem_filter.2 ⟨List.mem_map.2 ⟨a, ha, rfl⟩, by simpa using hKept⟩
  obtain ⟨entry, hEntry, hKey⟩ := List.mem_map.1
    (OrderedMap.mem_keys_ofPairs (List.mem_map.2 ⟨_, hPair, rfl⟩))
  exact ⟨entry, hEntry, hKey⟩

theorem isMemberName_of_isKept (hName : isNameOf isAttributeChar name = true) (hKept : IsKept name)
    (hColon : ':' ∉ name) : isMemberName name = true := by
  have hDot : '.' ∉ name := fun hMem => hColon (hKept.dots hMem).1
  cases name with
  | nil => cases hName
  | cons c name =>
    obtain ⟨hc, hRest⟩ := isInitial_of_isNameOf hName
    refine Bool.and_eq_true_iff.2 ⟨hc, List.all_eq_true.2 fun d hd => ?_⟩
    have hPoint : d ≠ '.' := by
      rintro rfl
      exact hDot (List.mem_cons_of_mem _ hd)
    have hSeparator : d ≠ ':' := by
      rintro rfl
      exact hColon (List.mem_cons_of_mem _ hd)
    simpa [isMemberChar, isAttributeChar, isTagChar, hPoint, hSeparator] using hRest d hd

/-! ## Declarations -/

/-- Every binding of a scope is stated on the way to it, or comes from the scope around. -/
theorem Markup.Place.exists_stating {path : List Nat} {place last : Place}
    (hScoped : place.Everywhere Element.IsScoped) (hLast : place.follow? path = some last)
    {e : Element} (he : last.node.element? = some e) {b : Binding} (hb : b ∈ last.scope)
    (hUri : b.uri ≠ "") :
    (∃ path' inner e', place.follow? path' = some inner ∧ inner.node.element? = some e' ∧
      b ∈ introduced e'.bindings inner.outer) ∨ b ∈ place.outer := by
  have hHere {place : Place} {e : Element} (he : place.node.element? = some e)
      (hScoped : place.Everywhere Element.IsScoped) (hb : b ∈ place.scope) :
      b ∈ introduced e.bindings place.outer ∨ b ∈ place.outer := by
    refine (stated_or_outer he (hScoped [] place e rfl he) hb hUri).imp (fun hStated => ?_) (·.2)
    have hMem : b ∈ place.statedOf b.label := hStated.2 ▸ List.mem_singleton_self b
    rw [← (scope_eq_enter he).1]
    exact (List.mem_filter.1 hMem).1
  induction path generalizing place with
  | nil =>
    obtain rfl := Option.some.inj hLast
    exact (hHere he hScoped hb).imp (fun hStated => ⟨[], place, e, rfl, he, hStated⟩) id
  | cons index path ih =>
    obtain ⟨next, hNext, hRest⟩ := Option.bind_eq_some_iff.1 hLast
    obtain ⟨around, hAround, hOuter⟩ := exists_element_of_child? hNext
    rcases ih (hScoped.child hNext) hRest with ⟨path', inner, e', hInner, he', hStated⟩ | hScope
    · refine .inl ⟨index :: path', inner, e', ?_, he', hStated⟩
      rw [follow?, hNext]
      exact hInner
    · rw [hOuter] at hScope
      exact (hHere hAround hScoped hScope).imp
        (fun hStated => ⟨[], place, around, rfl, hAround, hStated⟩) id

theorem hasMemberLabel_of_isKept {b : Binding} (hProper : b.IsProper)
    (hKept : IsKept b.attributeName.toList) : b.HasMemberLabel := by
  intro label hLabel
  have hLocal := (hProper.label label hLabel).1
  have hText : b.attributeName.toList = "xmlns:".toList ++ label.toList := by
    rw [Binding.attributeName, hLabel, String.toList_append]
  refine ⟨ne_empty_of_isLocalName hLocal, List.all_eq_true.2 fun c hc => ?_⟩
  rw [hText] at hKept
  have hChar := hKept.chars c (List.mem_append_right _ hc)
  have hPoint : c ≠ '.' := by
    rintro rfl
    exact (hKept.dots (List.mem_append_right _ hc)).2 (.inr (List.prefix_append _ _))
  have hColon : c ≠ ':' := by
    rintro rfl
    exact not_mem_colon_of_isLocalName hLocal hc
  simpa [isMemberChar, isAttributeChar, isTagChar, hPoint, hColon] using hChar

theorem missing_eq_nil {expected found : List String} (h : ∀ name ∈ expected, name ∈ found) :
    missing expected found = [] := by
  rw [List.eq_nil_iff_forall_not_mem]
  intro name hMem
  exact (mem_missing_iff.1 hMem).2 (h name (mem_missing_iff.1 hMem).1)

/-! ## Documents -/

section Covered

variable (hHeader : IsFree (header settings).toList) {bytes : List UInt8}
  (h : readDocument bytes = .ok root) (hFile : IsFree fileName.shown.toList)

include hHeader h hFile

/-- An attribute that is found in a tag is found in the module. -/
theorem attribute_covered (hFree : IsFreeDocument root) (hBox : (viewBox root).value ≠ "")
    {path : List Nat} {place : Place} (hPlace : (Place.ofRoot root).follow? path = some place)
    {e : Element} (he : place.node.element? = some e) {a : Attribute} (ha : a ∈ e.attributes)
    (hQualified : qualified (Scope.enter e.bindings place.outer) a.name = String.ofList name)
    (hName : isNameOf isAttributeChar name = true) (hKept : IsKept name) (hText : IsNameText name) :
    normalizedName (String.ofList name) ∈ attributeNames (moduleOf settings fileName root) := by
  by_cases hSkipped : String.ofList name ∈ skippedAt path
  · -- the parameters of the module set what is left out of the root
    have hParameter : String.ofList name ∈ parameterNames (viewBox root).value := by
      unfold skippedAt at hSkipped
      split at hSkipped
      · simpa [parameterNames, parameterAttributes, hBox] using hSkipped
      · exact absurd hSkipped List.not_mem_nil
    have hFound := mem_attributeNames_size hHeader h hFree hFile hParameter
    rwa [normalizedName_of_mem_names hFound]
  · rw [← hQualified] at hSkipped
    obtain ⟨entry, hEntry, hKey⟩ := exists_mem_attributeMap ha hSkipped
    rw [hQualified] at hKey
    have hVerbatim : IsVerbatim name := isVerbatim_of_isNameText hText
    have hMember : isMemberName entry.1.toList = true ∨
        ':' ∈ entry.1.toList ∧ IsVerbatim entry.1.toList := by
      rw [hKey, String.toList_ofList]
      by_cases hColon : ':' ∈ name
      · exact .inr ⟨hColon, hVerbatim⟩
      · exact .inl (isMemberName_of_isKept hName hKept hColon)
    obtain ⟨hFindable, hSame⟩ :=
      isFindable_convertAttribute settings.strictTransforms entry.2 hMember
    rw [← hKey, ← hSame]
    exact mem_attributeNames_own hHeader h hFree hFile hPlace he hFindable
      (mem_ownItems (.inr ⟨entry, hEntry, rfl⟩))

/-- A declaration that is found in a tag is found in the module, if something is bound by it. -/
theorem declaration_covered (hFree : IsFreeDocument root) {e : Element} (he : e ∈ root.elements)
    {b : Binding} (hb : b ∈ e.bindings) (hUri : b.uri ≠ "") (hKept : IsKept b.attributeName.toList) :
    normalizedName b.attributeName ∈ attributeNames (moduleOf settings fileName root) := by
  have hScoped := scoped_of_readDocument h
  obtain ⟨path, place, found, hPlace, hFound, rfl⟩ := somewhere_of_mem_elements [] root.node
    (elements_of_element? (Node.element?_node root) ▸ he)
  have hProper := (hScoped path place found hPlace hFound).own.bindings b hb
  have hScope : b ∈ place.scope := by
    rw [(Place.scope_eq_enter hFound).2]
    exact List.mem_append_left _ hb
  rcases Place.exists_stating hScoped hPlace hFound hScope hUri with
    ⟨path', inner, e', hInner, he', hStated⟩ | hOuter
  · obtain ⟨hFindable, hSame⟩ := isFindable_bindingStatement (hasMemberLabel_of_isKept hProper hKept)
    rw [← hSame, normalizedName_idem]
    exact mem_attributeNames_own hHeader h hFree hFile hInner he' hFindable
      (mem_ownItems (.inl ⟨b, hStated, rfl⟩))
  · exact absurd hOuter List.not_mem_nil

/-- The name of an attribute or of a declaration of a tag is found in the module. -/
theorem attributeName_covered {tags : RootTag} (hFit : IsFit tags root)
    (hBox : (viewBox root).value ≠ "") (hHas : ∀ tag ∈ tags.tags, (Place.ofRoot root).Has tag.names)
    {tag : Tag} (hTag : tag ∈ tags.tags) {a : TagAttribute} (ha : a ∈ tag.attributes)
    (hName : isNameOf isAttributeChar a.name.1 = true) :
    normalizedName (String.ofList a.name.1) ∈ attributeNames (moduleOf settings fileName root) := by
  have hKept := ((hFit.clear tag hTag).attributes a ha).name
  obtain ⟨path, place, e, hPlace, he, hNames⟩ := hHas tag hTag
  by_cases hDeclaration : IsDeclaration a.name.1
  · obtain ⟨e', he', b, hb, hUri, hBound⟩ := hFit.declarations tag hTag a ha hDeclaration
    rw [← hBound] at hKept ⊢
    rw [String.ofList_toList]
    exact declaration_covered hHeader h hFile hFit.free he' hb hUri hKept
  · obtain ⟨o, ho, read, hExpands, hRead⟩ :=
      (hNames.attributes _ (List.mem_map.2 ⟨a, ha, rfl⟩)).resolve_left hDeclaration
    have hBrace := hFit.attributes e ((within_of_follow? hPlace).element he) o ho
    rw [hRead] at hBrace
    rw [Name.reread_eq_self hBrace] at hRead
    have hScoped := scoped_of_readDocument h path place e hPlace he
    have hQualified := qualified_of_expands (hScoped.own.enter hScoped.enclosing)
      (hFit.labels path place e hPlace he) hExpands
    rw [← hRead] at hQualified
    exact attribute_covered hHeader h hFile hFit.free hBox hPlace he ho hQualified hName hKept
      a.name.2.2

/-- What looks like a name in a quoted value is found in the module if the tags have that name. -/
theorem isShown_of_own {tags : RootTag} (hFit : IsFit tags root)
    (hSvg : root.name.localName = "svg") (hBox : (viewBox root).value ≠ "")
    (hHas : ∀ tag ∈ tags.tags, (Place.ofRoot root).Has tag.names) {a : TagAttribute}
    (hElements : FindsOnly elementPattern (fun name => isNameOf isTagChar name = true ∧
      ∃ tag ∈ tags.tags, IsLocalPart name tag.name.1) none a.quoted [])
    (hAttributes : FindsOnly attributePattern (fun name => isNameOf isAttributeChar name = true ∧
      ∃ tag ∈ tags.tags, ∃ b ∈ tag.attributes, b.name.1 = name) none a.quoted []) :
    IsShown a (moduleOf settings fileName root) where
  elements := hElements.imp fun _ hOwn => by
    obtain ⟨hName, tag, hTag, hLocal⟩ := hOwn
    exact elementName_covered hFit hSvg hHas hTag hName hLocal
  attributes := hAttributes.imp fun _ hOwn => by
    obtain ⟨hName, tag, hTag, b, hb, rfl⟩ := hOwn
    exact attributeName_covered hHeader h hFile hFit hBox hHas hTag hb hName

/-- A document of tags that is fit for the comparison misses nothing in its module. -/
theorem differences_of_parts {prolog epilog : List Char} {tags : RootTag}
    (hRead : readCharacters (prolog ++ tags.text ++ epilog) = .ok root)
    (hParts : Parts prolog [] tags.text epilog) (hFit : IsFit tags root)
    (hSvg : root.name.localName = "svg") (hBox : (viewBox root).value ≠ "")
    (hShown : ∀ tag ∈ tags.tags, ∀ a ∈ tag.attributes,
      IsShown a (moduleOf settings fileName root)) :
    differences (String.ofList (prolog ++ tags.text ++ epilog)) (moduleOf settings fileName root) =
      [] := by
  have hHas := holds_of_parts hParts hRead
  have hInside {pattern : Pattern} {name : String}
      (hName : name ∈ names pattern (String.ofList (prolog ++ tags.text ++ epilog))) :
      ∃ found ∈ findings pattern tags.text, normalizedName (String.ofList found) = name := by
    have hFound := mem_sorted.1 hName
    rw [String.toList_ofList, inside_tags hParts] at hFound
    exact List.mem_map.1 hFound
  have hElements : missing (elementNames (String.ofList (prolog ++ tags.text ++ epilog)))
      (elementNames (moduleOf settings fileName root)) = [] := by
    refine missing_eq_nil fun name hName => ?_
    obtain ⟨found, hFound, rfl⟩ := hInside hName
    rcases exists_of_mem_elements hFit.clear (fun tag hTag a ha => (hShown tag hTag a ha).elements)
      hFound with ⟨hElement, tag, hTag, hLocal⟩ | hValue
    · exact elementName_covered hFit hSvg hHas hTag hElement hLocal
    · exact hValue
  have hAttributes : missing (attributeNames (String.ofList (prolog ++ tags.text ++ epilog)))
      (attributeNames (moduleOf settings fileName root)) = [] := by
    refine missing_eq_nil fun name hName => ?_
    obtain ⟨found, hFound, rfl⟩ := hInside hName
    rcases exists_of_mem_attributes hFit.clear
      (fun tag hTag a ha => (hShown tag hTag a ha).attributes) hFound with
      ⟨hAttribute, tag, hTag, a, ha, rfl⟩ | hValue
    · exact attributeName_covered hHeader h hFile hFit hBox hHas hTag ha hAttribute
    · exact hValue
  rw [differences, hElements, hAttributes]
  rfl

end Covered

end SvgBuilder
