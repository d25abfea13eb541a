import SvgBuilder.Proofs.Comparison.Places
import SvgBuilder.Proofs.Comparison.Root
import SvgBuilder.Proofs.Markup.Written

/-!
# Names that are found in tags

In markup that consists of tags the patterns find the names of the elements and of the attributes,
and else only what looks like a name in a quoted value.  What is looked for in one part of a tag
does not go on in the next one: it holds neither blanks nor quotes but at its end.

## Main results

* `findsOnly_tags`: what a pattern finds in tags, if that is known for the parts of each tag.
* `exists_of_mem_elements`, `exists_of_mem_attributes`: the names that are found in a root element.
-/

namespace SvgBuilder.Comparison

open SvgBuilder.Text SvgBuilder.Markup

variable {pattern : Pattern} {before : Option Char} {s t rest name : List Char} {c : Char}

/-! ## Clear tags -/

/-- Whether the patterns take all of a written name of an attribute, in markup and in a module. -/
structure IsKept (written : List Char) : Prop where
  chars : ∀ c ∈ written, isAttributeChar c = true
  last : written.getLast? ≠ some ':'
  /-- A member of the builder has no dot in its name. -/
  dots : '.' ∈ written → ':' ∈ written ∧ ¬IsDeclaration written

instance (written : List Char) : Decidable (IsKept written) :=
  decidable_of_iff (written.all isAttributeChar = true ∧ written.getLast? ≠ some ':' ∧
    ('.' ∈ written → ':' ∈ written ∧ ¬IsDeclaration written))
    ⟨fun h => ⟨List.all_eq_true.1 h.1, h.2.1, h.2.2⟩,
      fun h => ⟨List.all_eq_true.2 h.chars, h.last, h.dots⟩⟩

/-- Whether the patterns take the name of an attribute, and no call of the method for other
attributes in its value. -/
structure IsClearAttribute (a : TagAttribute) : Prop where
  name : IsKept a.name.1
  free : IsFree a.value

instance (a : TagAttribute) : Decidable (IsClearAttribute a) :=
  decidable_of_iff (IsKept a.name.1 ∧ IsFree a.value)
    ⟨fun h => ⟨h.1, h.2⟩, fun h => ⟨h.name, h.free⟩⟩

/-- Whether the patterns take the names of a tag.  A dot belongs to the name of a tag, but not to
that of a call; and there is a blank that belongs to names in markup. -/
structure IsClearTag (tag : Tag) : Prop where
  name : ∀ c ∈ tag.name.1, c ≠ '.' ∧ isBlank c = false
  attributes : ∀ a ∈ tag.attributes, IsClearAttribute a

instance (tag : Tag) : Decidable (IsClearTag tag) :=
  decidable_of_iff (tag.name.1.all (fun c => c ≠ '.' && !isBlank c) = true ∧
    ∀ a ∈ tag.attributes, IsClearAttribute a)
    ⟨fun h => ⟨by simpa using h.1, h.2⟩, fun h => ⟨by simpa using h.name, h.attributes⟩⟩

/-! ## Names of tags -/

theorem not_endsTag_of_isNameChar (h : isNameChar c = true) (hBlank : isBlank c = false) :
    endsTag c = false := by
  refine Bool.eq_false_iff.2 fun hEnds => ?_
  simp only [endsTag, hBlank, Bool.false_or, Bool.or_eq_true, decide_eq_true_eq] at hEnds
  rcases hEnds with rfl | rfl
  · exact absurd h (by decide)
  · exact absurd h (by decide)

theorem not_endsTag_of_all (h : s.all (!endsTag ·) = true) : ∀ c ∈ s, endsTag c = false := by
  simpa using List.all_eq_true.1 h

/-- What stands before the first character with a property. -/
theorem eq_of_first {p : Char → Bool} {s t u v : List Char} {c d : Char}
    (h : s ++ c :: u = t ++ d :: v) (hs : ∀ e ∈ s, p e = false) (ht : ∀ e ∈ t, p e = false)
    (hc : p c = true) (hd : p d = true) : s = t := by
  have hTake {s : List Char} (hs : ∀ e ∈ s, p e = false) {c : Char} (hc : p c = true)
      (u : List Char) : (s ++ c :: u).takeWhile (!p ·) = s := by
    rw [List.takeWhile_append_of_pos fun e he => by simp [hs e he],
      List.takeWhile_cons_of_neg (by simp [hc]), List.append_nil]
  rw [← hTake hs hc u, h, hTake ht hd v]

/-- A word that does not end a tag does not reach behind its name. -/
theorem prefix_of_endsTagName {word : List Char} (h : endsTagName rest = true)
    (hWord : ∀ c ∈ word, endsTag c = false) (hPrefix : word <+: s ++ rest) : word <+: s := by
  obtain ⟨c, t, rfl, hc⟩ := endsTagName_iff.1 h
  refine prefix_of_not_mem hPrefix fun hMem => ?_
  rw [hWord c hMem] at hc
  cases hc

/-- What the pattern for elements finds is a tag, or begins with the name of the builder. -/
theorem exists_word_of_elementPattern {f : Finding} (h : elementPattern before s = some f) :
    (∃ t, s = '<' :: t) ∨ "svg.".toList <+: s := by
  cases hTag : tagName? before s with
  | some g =>
    obtain ⟨-, written, rest, hText, -⟩ := exists_of_tagName? hTag
    exact .inl ⟨_, hText⟩
  | none =>
    rw [elementPattern, hTag] at h
    obtain ⟨-, -, -, rest, hText⟩ := exists_of_callName? h
    exact .inr ⟨f.name ++ '(' :: rest, by rw [hText, List.append_assoc]⟩

/-- What the pattern for attributes finds begins with a word that is not the name of a tag. -/
theorem exists_word_of_attributePattern {f : Finding} (h : attributePattern before s = some f) :
    ∃ word, word <+: s ∧ (∀ c ∈ word, endsTag c = false) ∧ ∃ c ∈ word, c ∈ ['=', '.', '('] := by
  cases hMarkup : markupName? before s with
  | some g =>
    obtain ⟨-, hName, -, quote, rest, hText, -⟩ := markupName?_eq_some_iff.1 hMarkup
    refine ⟨g.name ++ ['='], ⟨quote :: rest, by simp [hText]⟩, fun c hc => ?_, '=', by simp, by simp⟩
    rcases List.mem_append.1 hc with hc | hc
    · exact not_endsTag_of_isAttributeChar (isAttributeChar_of_isNameOf hName (fun _ => id) c hc)
    · rw [List.mem_singleton.1 hc]
      decide
  | none =>
    cases hStatement : statementName? before s with
    | some g =>
      obtain ⟨-, -, blanks, rest, -, hText⟩ := exists_of_statementName? hStatement
      refine ⟨"svg.".toList, ⟨g.name ++ blanks ++ ':' :: '=' :: rest, by simp [hText]⟩,
        not_endsTag_of_all (by decide), '.', by decide, by simp⟩
    | none =>
      rw [attributePattern, hMarkup, hStatement] at h
      exact ⟨quotedOpening, opening_of_quotedName? h, not_endsTag_of_all (by decide), '(',
        by decide, by simp⟩

/-- In the name of a tag nothing is found. -/
theorem findsOnly_tagName {tag : Tag} (hClear : IsClearTag tag) (hRest : endsTagName rest = true)
    (before : Option Char) (P : List Char → Prop) :
    FindsOnly elementPattern P before tag.name.1 rest ∧
      FindsOnly attributePattern P before tag.name.1 rest := by
  have hChars {a b : List Char} (hText : tag.name.1 = a ++ b) {c : Char} (hc : c ∈ b) :
      isNameChar c = true ∧ c ≠ '.' := by
    have hMem : c ∈ tag.name.1 := by simp [hText, hc]
    exact ⟨tag.name.2.2 c hMem, (hClear.name c hMem).1⟩
  constructor
  · intro a b hText hb f hFound
    rcases exists_word_of_elementPattern hFound with ⟨t, hTag⟩ | hPrefix
    · cases b with
      | nil => exact absurd rfl hb
      | cons c b =>
        obtain rfl := (List.cons.inj hTag).1
        exact absurd (hChars hText List.mem_cons_self).1 (by decide)
    · have hInside := prefix_of_endsTagName hRest (not_endsTag_of_all (by decide)) hPrefix
      exact absurd rfl (hChars hText (hInside.subset (by decide : '.' ∈ _))).2
  · intro a b hText hb f hFound
    obtain ⟨word, hPrefix, hEnds, c, hc, hOther⟩ := exists_word_of_attributePattern hFound
    obtain ⟨hName, hDot⟩ := hChars hText ((prefix_of_endsTagName hRest hEnds hPrefix).subset hc)
    simp only [List.mem_cons, List.not_mem_nil, or_false] at hOther
    rcases hOther with rfl | rfl | rfl
    · exact absurd hName (by decide)
    · exact absurd rfl hDot
    · exact absurd hName (by decide)

theorem elementPattern_tag (before : Option Char) (s : List Char) :
    elementPattern before ('<' :: s) = tagName? before ('<' :: s) := by
  have hCall : callName? before ('<' :: s) = none := by
    rw [Option.eq_none_iff_forall_ne_some]
    intro f hFound
    obtain ⟨-, -, -, rest, hText⟩ := exists_of_callName? hFound
    exact absurd (List.cons.inj hText).1 (by decide)
  rw [elementPattern, hCall]
  cases tagName? before ('<' :: s) <;> rfl

/-- What a tag begins with names its element. -/
theorem findsOnly_opening {tag : Tag} (hClear : IsClearTag tag) (hRest : endsTagName rest = true)
    (before : Option Char) :
    FindsOnly elementPattern (fun name => isNameOf isTagChar name = true ∧
      IsLocalPart name tag.name.1) before ('<' :: tag.name.1) rest := by
  refine FindsOnly.cons (fun f hFound => ?_) (findsOnly_tagName hClear hRest _ _).1
  rw [elementPattern_tag] at hFound
  obtain ⟨hName, written, behind, hText, hLocal, hChars, hEnds⟩ := exists_of_tagName? hFound
  have hWritten : tag.name.1 = written := by
    obtain ⟨c, t, rfl, hc⟩ := endsTagName_iff.1 hRest
    obtain ⟨d, u, rfl, hd⟩ := endsTagName_iff.1 hEnds
    refine eq_of_first (List.cons.inj hText).2 (fun e he => ?_) (fun e he => ?_) hc hd
    · exact not_endsTag_of_isNameChar (tag.name.2.2 e he) (hClear.name e he).2
    · exact not_endsTag_of_isAttributeChar (hChars e he)
  exact ⟨hName, hWritten ▸ hLocal⟩

/-! ## Names of attributes -/

section Attribute

variable {a : TagAttribute}

/-- On the name of an attribute a blank follows, or the equals sign. -/
theorem exists_behindName (a : TagAttribute) (v : List Char) :
    ∃ c u, a.behindName.1 ++ '=' :: v = c :: u ∧ isAttributeChar c = false ∧ c ≠ '(' := by
  cases hBlanks : a.behindName.1 with
  | nil => exact ⟨'=', v, rfl, by decide, by decide⟩
  | cons c blanks =>
    have hSpace := a.behindName.2 c (by simp [hBlanks])
    refine ⟨c, _, rfl, not_isAttributeChar_of_isBlank (isBlank_of_isSpace hSpace), ?_⟩
    rintro rfl
    exact absurd hSpace (by decide)

/-- In the name of an attribute there is no call. -/
theorem not_prefix_of_attributeName (hs : ∀ c ∈ s, isAttributeChar c = true) {word : List Char}
    (hWord : ∀ c ∈ word, isAttributeChar c = true) (v : List Char) :
    ¬word ++ ['('] <+: s ++ (a.behindName.1 ++ '=' :: v) := by
  obtain ⟨c, u, hBehind, hc, hOther⟩ := exists_behindName a v
  rw [hBehind]
  intro hPrefix
  have hNot : c ∉ word ++ ['('] := by
    intro hMem
    rcases List.mem_append.1 hMem with hMem | hMem
    · rw [hWord c hMem] at hc
      cases hc
    · exact hOther (List.mem_singleton.1 hMem)
  have hCall := hs '(' ((prefix_of_not_mem hPrefix hNot).subset (by simp))
  exact absurd hCall (by decide)

/-- In the name of an attribute no element is found. -/
theorem findsOnly_attributeName_elements (hChars : ∀ c ∈ a.name.1, isAttributeChar c = true)
    (before : Option Char) (P : List Char → Prop) (v : List Char) :
    FindsOnly elementPattern P before a.name.1 (a.behindName.1 ++ '=' :: v) := by
  intro x b hText hb f hFound
  have hb' : ∀ c ∈ b, isAttributeChar c = true := fun c hc => hChars c (by simp [hText, hc])
  cases hTag : tagName? (lastOf before x) (b ++ (a.behindName.1 ++ '=' :: v)) with
  | some g =>
    obtain ⟨-, written, rest, hBegins, -⟩ := exists_of_tagName? hTag
    cases b with
    | nil => exact absurd rfl hb
    | cons c b =>
      obtain rfl := (List.cons.inj hBegins).1
      exact absurd (hb' _ List.mem_cons_self) (by decide)
  | none =>
    rw [elementPattern, hTag] at hFound
    obtain ⟨-, hName, -, rest, hCall⟩ := exists_of_callName? hFound
    have hWord : ∀ c ∈ "svg.".toList ++ f.name, isAttributeChar c = true :=
      isAttributeChar_of_isNameOf (isAttributeName_builder hName) fun _ => id
    exact absurd ⟨rest, by simp [hCall]⟩ (not_prefix_of_attributeName (a := a) hb' hWord v)

/-- A colon before an equals sign does not end a name that the patterns take. -/
theorem statementName?_attributeName (hKept : IsKept a.name.1) {x b : List Char}
    (hText : a.name.1 = x ++ b) (hb : b ≠ []) (before : Option Char) (v : List Char) :
    statementName? before (b ++ (a.behindName.1 ++ '=' :: v)) = none := by
  rw [Option.eq_none_iff_forall_ne_some]
  intro f hFound
  obtain ⟨-, hName, blanks, rest, hBlanks, hStatement⟩ := exists_of_statementName? hFound
  have hSigns : b ++ a.behindName.1 ++ '=' :: v =
      ("svg.".toList ++ f.name ++ blanks ++ [':']) ++ '=' :: rest := by
    simpa using hStatement
  have hSpace {c : Char} (hc : isBlank c = true) : c ≠ '=' := by
    rintro rfl
    exact absurd hc (by decide)
  have hChar {c : Char} (hc : isAttributeChar c = true) : c ≠ '=' := by
    rintro rfl
    exact absurd hc (by decide)
  have hMember := isAttributeChar_of_isNameOf (isAttributeName_builder hName) fun _ => id
  have hSame : b ++ a.behindName.1 = "svg.".toList ++ f.name ++ blanks ++ [':'] := by
    refine eq_of_first (p := (· = '=')) hSigns (fun c hc => ?_) (fun c hc => ?_) (by simp) (by simp)
    · rw [decide_eq_false_iff_not]
      rcases List.mem_append.1 hc with hc | hc
      · exact hChar (hKept.chars c (by simp [hText, hc]))
      · exact hSpace (isBlank_of_isSpace (a.behindName.2 c hc))
    · rw [decide_eq_false_iff_not]
      rcases List.mem_append.1 hc with hc | hc
      · rcases List.mem_append.1 hc with hc | hc
        · exact hChar (hMember c hc)
        · exact hSpace (hBlanks c hc)
      · rw [List.mem_singleton.1 hc]
        decide
  have hLast := congrArg List.getLast? hSame
  rw [List.getLast?_concat] at hLast
  cases hNil : a.behindName.1 with
  | nil =>
    rw [hNil, List.append_nil] at hLast
    refine hKept.last ?_
    rw [hText, List.getLast?_append_of_ne_nil _ hb]
    exact hLast
  | cons c blanks =>
    rw [List.getLast?_append_of_ne_nil _ (by simp [hNil])] at hLast
    have hColon := a.behindName.2 ':' (List.mem_of_getLast? hLast)
    exact absurd hColon (by decide)

/-- A name that is found from within the name of an attribute on ends with it. -/
theorem eq_of_markupName? (hs : ∀ c ∈ s, isAttributeChar c = true) {before : Option Char}
    {v : List Char} {f : Finding}
    (h : markupName? before (s ++ (a.behindName.1 ++ '=' :: v)) = some f) : s = f.name := by
  obtain ⟨-, hName, -, quote, rest, hSign, -⟩ := markupName?_eq_some_iff.1 h
  have hFound := isAttributeChar_of_isNameOf hName fun _ => id
  have hSame : s ++ a.behindName.1 = f.name := by
    rw [← List.append_assoc] at hSign
    refine eq_of_first (p := (· = '=')) hSign (fun c hc => ?_) (fun c hc => ?_) (by simp) (by simp)
    · rw [decide_eq_false_iff_not]
      rintro rfl
      rcases List.mem_append.1 hc with hc | hc
      · exact absurd (hs _ hc) (by decide)
      · exact absurd (a.behindName.2 _ hc) (by decide)
    · rw [decide_eq_false_iff_not]
      rintro rfl
      exact absurd (hFound _ hc) (by decide)
  have hNil : a.behindName.1 = [] := by
    rw [List.eq_nil_iff_forall_not_mem]
    intro c hc
    have hBlank := isBlank_of_isSpace (a.behindName.2 c hc)
    have hChar := hFound c (hSame ▸ List.mem_append_right _ hc)
    rw [not_isAttributeChar_of_isBlank hBlank] at hChar
    cases hChar
  rwa [hNil, List.append_nil] at hSame

theorem quotedName?_attributeName (hs : ∀ c ∈ s, isAttributeChar c = true)
    (before : Option Char) (v : List Char) :
    quotedName? before (s ++ (a.behindName.1 ++ '=' :: v)) = none := by
  rw [Option.eq_none_iff_forall_ne_some]
  intro f hFound
  have hWord : ∀ c ∈ "svgAttr".toList, isAttributeChar c = true :=
    isAttributeChar_of_isMemberName (by decide)
  refine not_prefix_of_attributeName (a := a) hs hWord v ?_
  have hOpening : "svgAttr".toList ++ ['('] <+: quotedOpening := by decide
  exact hOpening.trans (opening_of_quotedName? hFound)

/-- In the name of an attribute, behind a blank, that name is found and nothing else. -/
theorem findsOnly_attributeName (hKept : IsKept a.name.1) {before : Option Char}
    (v : List Char) :
    FindsOnly attributePattern (fun name => name = a.name.1 ∧ isNameOf isAttributeChar name = true)
      before a.name.1 (a.behindName.1 ++ '=' :: v) := by
  intro x b hText hb f hFound
  have hb' : ∀ c ∈ b, isAttributeChar c = true := fun c hc => hKept.chars c (by simp [hText, hc])
  rw [attributePattern, quotedName?_attributeName hb',
    statementName?_attributeName hKept hText hb] at hFound
  have hMarkup : markupName? (lastOf before x) (b ++ (a.behindName.1 ++ '=' :: v)) = some f := by
    simpa using hFound
  obtain ⟨hBefore, hName, -⟩ := markupName?_eq_some_iff.1 hMarkup
  -- what is found begins at the first character, since there is one of a name before any other
  have hFirst : x = [] := by
    by_contra hSome
    obtain ⟨y, c, rfl⟩ := exists_concat hSome
    rw [lastOf_append] at hBefore
    have hChar := hKept.chars c (by simp [hText])
    rw [show isAttributeChar c = false from hBefore] at hChar
    cases hChar
  rw [hFirst, List.nil_append] at hText
  exact ⟨(eq_of_markupName? hb' hMarkup).symm.trans hText.symm, hName⟩

end Attribute

/-! ## Values -/

theorem not_prefix_of_mark {d : Char} (hc : isInitial c = false) (hd : isInitial d = true)
    (w s : List Char) : ¬d :: w <+: c :: s := by
  intro hPrefix
  rw [(List.cons_prefix_cons.1 hPrefix).1, hc] at hd
  cases hd

/-- No element is found at a blank, a quote or a mark but that of a tag. -/
theorem elementPattern_mark (c : Char) (hc : isInitial c = false) (hTag : c ≠ '<')
    (before : Option Char) (s : List Char) : elementPattern before (c :: s) = none := by
  rw [Option.eq_none_iff_forall_ne_some]
  intro f hFound
  rcases exists_word_of_elementPattern hFound with ⟨t, hText⟩ | hPrefix
  · exact hTag (List.cons.inj hText).1
  · exact not_prefix_of_mark hc (by decide) _ s hPrefix

/-- No attribute is found at a blank, a quote or a mark. -/
theorem attributePattern_mark {c : Char} (hc : isInitial c = false) (before : Option Char)
    (s : List Char) : attributePattern before (c :: s) = none := by
  refine attributePattern_eq_none ?_ ?_ ?_
  · rw [Option.eq_none_iff_forall_ne_some]
    intro f hFound
    obtain ⟨-, hName, -, quote, rest, hText, -⟩ := markupName?_eq_some_iff.1 hFound
    cases hNil : f.name with
    | nil =>
      rw [hNil] at hName
      cases hName
    | cons d name =>
      rw [hNil] at hName hText
      exact not_prefix_of_mark hc (isInitial_of_isNameOf hName).1 _ s ⟨_, hText.symm⟩
  · rw [Option.eq_none_iff_forall_ne_some]
    intro f hFound
    obtain ⟨-, -, blanks, rest, -, hText⟩ := exists_of_statementName? hFound
    refine not_prefix_of_mark hc (by decide : isInitial 's' = true) "vg.".toList s ?_
    exact ⟨f.name ++ blanks ++ ':' :: '=' :: rest, by simp [hText]⟩
  · rw [Option.eq_none_iff_forall_ne_some]
    intro f hFound
    exact not_prefix_of_mark hc (by decide) _ s (opening_of_quotedName? hFound)

section Quoted

variable {quote : Char} (hQuote : quote = '\x22' ∨ quote = '\x27')

include hQuote

theorem not_isAttributeChar_quote : isAttributeChar quote = false := by
  rcases hQuote with rfl | rfl <;> decide

/-- A quote does not stand in a word of names and signs. -/
theorem not_mem_word {word signs : List Char} (hWord : ∀ c ∈ word, isAttributeChar c = true)
    (hSigns : ∀ c ∈ signs, c ≠ '\x22' ∧ c ≠ '\x27') : quote ∉ word ++ signs := by
  intro hMem
  rcases List.mem_append.1 hMem with hMem | hMem
  · have hChar := hWord _ hMem
    rw [not_isAttributeChar_quote hQuote] at hChar
    cases hChar
  · rcases hQuote with rfl | rfl
    · exact (hSigns _ hMem).1 rfl
    · exact (hSigns _ hMem).2 rfl

/-- A call in a quoted value does not reach behind its end. -/
theorem callName?_quoted {f : Finding} (h : callName? before (s ++ quote :: rest) = some f) :
    ∃ g, callName? before (s ++ [quote]) = some g ∧ g.name = f.name := by
  obtain ⟨hStart, hName, hOther, behind, hText⟩ := exists_of_callName? h
  have hMember := isAttributeChar_of_isNameOf (isAttributeName_builder hName) fun _ => id
  have hWord := not_mem_word hQuote hMember (by simp : ∀ c ∈ ['('], c ≠ '\x22' ∧ c ≠ '\x27')
  obtain ⟨t, rfl⟩ := prefix_of_not_mem (a := s) (b := rest) ⟨behind, by simp [hText]⟩ hWord
  have hCall := callName?_append hName hOther hStart (t ++ [quote])
  exact ⟨⟨f.name, f.name.length + 5⟩, by simpa using hCall, rfl⟩

/-- A statement in a quoted value does not reach behind its end. -/
theorem statementName?_quoted {f : Finding}
    (h : statementName? before (s ++ quote :: rest) = some f) :
    ∃ g, statementName? before (s ++ [quote]) = some g ∧ g.name = f.name := by
  obtain ⟨hStart, hName, blanks, behind, hBlanks, hText⟩ := exists_of_statementName? h
  have hMember := isAttributeChar_of_isNameOf (isAttributeName_builder hName) fun _ => id
  have hSigns : ∀ c ∈ blanks ++ [':', '='], c ≠ '\x22' ∧ c ≠ '\x27' := by
    intro c hc
    rcases List.mem_append.1 hc with hc | hc
    · have hBlank := hBlanks c hc
      constructor <;> rintro rfl <;> exact absurd hBlank (by decide)
    · simp only [List.mem_cons, List.not_mem_nil, or_false] at hc
      rcases hc with rfl | rfl <;> decide
  have hWord := not_mem_word hQuote hMember hSigns
  obtain ⟨t, rfl⟩ := prefix_of_not_mem (a := s) (b := rest) ⟨behind, by simp [hText]⟩ hWord
  obtain ⟨width, hStatement⟩ := statementName?_append hName hBlanks hStart (t ++ [quote])
  exact ⟨⟨f.name, width⟩, by simpa using hStatement, rfl⟩

/-- A name before an equals sign and a quote in a quoted value does not reach behind its end. -/
theorem markupName?_quoted {f : Finding} (h : markupName? before (s ++ quote :: rest) = some f) :
    markupName? before (s ++ [quote]) = some f := by
  obtain ⟨hBefore, hName, hWidth, other, behind, hText, hOther⟩ := markupName?_eq_some_iff.1 h
  have hWord := not_mem_word hQuote (isAttributeChar_of_isNameOf hName fun _ => id)
    (by simp : ∀ c ∈ ['='], c ≠ '\x22' ∧ c ≠ '\x27')
  obtain ⟨t, hInside⟩ := prefix_concat_of_not_mem (a := s) (b := rest) (d := other)
    ⟨behind, by simp [hText]⟩ hWord
  exact markupName?_eq_some_iff.2 ⟨hBefore, hName, hWidth, other, t, by simp [← hInside], hOther⟩

/-- In a free value the method for other attributes is not called. -/
theorem quotedName?_of_isFree (hFree : IsFree s) :
    quotedName? before (s ++ quote :: rest) = none := by
  rw [Option.eq_none_iff_forall_ne_some]
  intro f hFound
  have hOpening : otherOpening <+: s ++ quote :: rest := by
    have hFirst : otherOpening <+: quotedOpening := by decide
    exact hFirst.trans (opening_of_quotedName? hFound)
  have hWord : quote ∉ otherOpening := by
    rcases hQuote with rfl | rfl <;> decide
  exact hFree (prefix_of_not_mem hOpening hWord).isInfix

/-- The element that is found in a quoted value within a text is found in the value itself. -/
theorem elementPattern_quoted (hTag : '<' ∉ s) {f : Finding}
    (h : elementPattern before (s ++ quote :: rest) = some f) :
    ∃ g, elementPattern before (s ++ [quote]) = some g ∧ g.name = f.name := by
  have hNoTag (rest : List Char) : tagName? before (s ++ quote :: rest) = none := by
    rw [Option.eq_none_iff_forall_ne_some]
    intro f hFound
    obtain ⟨-, written, behind, hText, -⟩ := exists_of_tagName? hFound
    cases s with
    | nil =>
      obtain rfl := (List.cons.inj hText).1
      exact absurd hQuote (by decide)
    | cons c s =>
      obtain rfl := (List.cons.inj hText).1
      exact hTag List.mem_cons_self
  rw [elementPattern, hNoTag] at h ⊢
  exact callName?_quoted hQuote h

/-- The attribute that is found in a quoted value within a text is found in the value itself. -/
theorem attributePattern_quoted (hFree : IsFree s) {f : Finding}
    (h : attributePattern before (s ++ quote :: rest) = some f) :
    ∃ g, attributePattern before (s ++ [quote]) = some g ∧ g.name = f.name := by
  rw [attributePattern, quotedName?_of_isFree hQuote hFree] at h
  cases hMarkup : markupName? before (s ++ quote :: rest) with
  | some g =>
    rw [hMarkup] at h
    obtain rfl : g = f := Option.some.inj h
    exact ⟨g, by rw [attributePattern, markupName?_quoted hQuote hMarkup]; rfl, rfl⟩
  | none =>
    -- a name in the value would be one within the text, too
    have hNone : markupName? before (s ++ [quote]) = none := by
      rw [Option.eq_none_iff_forall_ne_some] at hMarkup ⊢
      intro g hFound
      obtain ⟨hBefore, hName, hWidth, other, behind, hText, hOther⟩ :=
        markupName?_eq_some_iff.1 hFound
      refine hMarkup g (markupName?_eq_some_iff.2
        ⟨hBefore, hName, hWidth, other, behind ++ rest, ?_, hOther⟩)
      rw [List.append_cons, hText]
      simp
    have hStatement : statementName? before (s ++ quote :: rest) = some f := by
      simpa [hMarkup] using h
    obtain ⟨g, hFound, hSame⟩ := statementName?_quoted hQuote hStatement
    exact ⟨g, by rw [attributePattern, hNone, hFound]; rfl, hSame⟩

end Quoted

section QuotedValue

variable {a : TagAttribute} {P : List Char → Prop}

theorem isMark_quote (a : TagAttribute) : isInitial a.quote = false ∧ a.quote ≠ '<' := by
  rcases a.isQuote with h | h <;> rw [h] <;> decide

/-- A place in a quoted value, with what stands before and behind it. -/
theorem exists_of_quoted {x b : List Char} (hText : a.value ++ [a.quote] = x ++ b) (hb : b ≠ []) :
    ∃ y, b = y ++ [a.quote] ∧ a.value = x ++ y ∧ a.quoted = (a.quote :: x) ++ b := by
  obtain ⟨y, c, rfl⟩ := exists_concat hb
  have hSplit : a.quoted = (a.quote :: x) ++ (y ++ [c]) := by
    rw [TagAttribute.quoted, hText, List.cons_append]
  rw [← List.append_assoc] at hText
  obtain ⟨hValue, hLast⟩ := List.append_inj' hText rfl
  obtain rfl : a.quote = c := (List.cons.inj hLast).1
  exact ⟨y, rfl, hValue, hSplit⟩

/-- The elements that are found in a quoted value within a text are those in the value itself. -/
theorem findsOnly_quoted_elements (h : FindsOnly elementPattern P none a.quoted [])
    (before : Option Char) (rest : List Char) : FindsOnly elementPattern P before a.quoted rest := by
  refine FindsOnly.cons (fun f hFound => ?_) fun x b hText hb f hFound => ?_
  · cases (elementPattern_mark _ (isMark_quote a).1 (isMark_quote a).2 _ _).symm.trans hFound
  · obtain ⟨y, rfl, hValue, hSplit⟩ := exists_of_quoted hText hb
    have hTag : '<' ∉ y := fun hMem => (a.ends _ (hValue ▸ List.mem_append_right _ hMem)).2 rfl
    rw [List.append_assoc, List.singleton_append] at hFound
    obtain ⟨g, hInside, hSame⟩ := elementPattern_quoted a.isQuote hTag hFound
    rw [← hSame]
    exact h _ _ hSplit hb g (by rwa [List.append_nil])

/-- The attributes that are found in a free quoted value within a text are those in the value
itself. -/
theorem findsOnly_quoted_attributes (hFree : IsFree a.value)
    (h : FindsOnly attributePattern P none a.quoted []) (before : Option Char) (rest : List Char) :
    FindsOnly attributePattern P before a.quoted rest := by
  refine FindsOnly.cons (fun f hFound => ?_) fun x b hText hb f hFound => ?_
  · cases (attributePattern_mark (isMark_quote a).1 _ _).symm.trans hFound
  · obtain ⟨y, rfl, hValue, hSplit⟩ := exists_of_quoted hText hb
    have hBehind : IsFree y := hFree.of_isInfix (hValue ▸ (List.suffix_append x y).isInfix)
    rw [List.append_assoc, List.singleton_append] at hFound
    obtain ⟨g, hInside, hSame⟩ := attributePattern_quoted a.isQuote hBehind hFound
    rw [← hSame]
    exact h _ _ hSplit hb g (by rwa [List.append_nil])

end QuotedValue

/-! ## Tags -/

/-- Whether a pattern passes blanks and marks. -/
def PassesMarks (pattern : Pattern) : Prop :=
  ∀ c, isInitial c = false → c ≠ '<' → ∀ before s, pattern before (c :: s) = none

/-- Whether what a pattern finds in the parts of a tag has names with a property. -/
structure FitsTag (pattern : Pattern) (P : List Char → Prop) (tag : Tag) : Prop where
  opening : ∀ before rest, endsTagName rest = true →
    FindsOnly pattern P before ('<' :: tag.name.1) rest
  closing : ∀ before rest, endsTagName rest = true →
    FindsOnly pattern P before ('<' :: '/' :: tag.name.1) rest
  name : ∀ a ∈ tag.attributes, ∀ before v,
    FindsOnly pattern P before a.name.1 (a.behindName.1 ++ '=' :: v)
  quoted : ∀ a ∈ tag.attributes, ∀ before rest, FindsOnly pattern P before a.quoted rest

theorem FitsTag.imp {P Q : List Char → Prop} {tag : Tag} (h : FitsTag pattern P tag)
    (hPQ : ∀ name, P name → Q name) : FitsTag pattern Q tag where
  opening before rest hRest := (h.opening before rest hRest).imp hPQ
  closing before rest hRest := (h.closing before rest hRest).imp hPQ
  name a ha before v := (h.name a ha before v).imp hPQ
  quoted a ha before rest := (h.quoted a ha before rest).imp hPQ

section Tags

variable {P : List Char → Prop} (hMarks : PassesMarks pattern)

include hMarks

theorem findsOnly_marks (hs : ∀ c ∈ s, isInitial c = false ∧ c ≠ '<') (before : Option Char)
    (rest : List Char) : FindsOnly pattern P before s rest := by
  intro x b hText hb f hFound
  cases b with
  | nil => exact absurd rfl hb
  | cons c b =>
    obtain ⟨hInitial, hTag⟩ := hs c (by simp [hText])
    cases (hMarks c hInitial hTag _ _).symm.trans hFound

theorem findsOnly_blanks (blanks : Blanks) (before : Option Char) (rest : List Char) :
    FindsOnly pattern P before blanks.1 rest := by
  refine findsOnly_marks hMarks (fun c hc => ?_) before rest
  have hSpace := blanks.2 c hc
  simp only [isSpace, Bool.or_eq_true, decide_eq_true_eq] at hSpace
  rcases hSpace with ((rfl | rfl) | rfl) | rfl <;> decide

theorem findsOnly_mark (hc : isInitial c = false ∧ c ≠ '<') {before : Option Char}
    (hs : FindsOnly pattern P (some c) s rest) : FindsOnly pattern P before (c :: s) rest := by
  refine FindsOnly.cons (fun f hFound => ?_) hs
  cases (hMarks c hc.1 hc.2 _ _).symm.trans hFound

theorem findsOnly_attributes {tag : Tag} (h : FitsTag pattern P tag)
    {attributes : List TagAttribute} (hAll : ∀ a ∈ attributes, a ∈ tag.attributes)
    (before : Option Char) (rest : List Char) :
    FindsOnly pattern P before (attributes.flatMap TagAttribute.text) rest := by
  induction attributes generalizing before with
  | nil => exact FindsOnly.nil
  | cons a attributes ih =>
    have ha := hAll a List.mem_cons_self
    have hName : ∀ before v, FindsOnly pattern P before a.name.1
        ((a.behindName.1 ++ '=' :: (a.behindSign.1 ++ a.quoted)) ++ v) := by
      intro before v
      rw [List.append_assoc]
      exact h.name a ha before _
    have hValue : ∀ before rest, FindsOnly pattern P before
        (a.behindName.1 ++ '=' :: (a.behindSign.1 ++ a.quoted)) rest := by
      intro before rest
      refine (findsOnly_blanks hMarks _ _ _).append (findsOnly_mark hMarks (by decide) ?_)
      exact (findsOnly_blanks hMarks _ _ _).append (h.quoted a ha _ _)
    have hText : ∀ before rest, FindsOnly pattern P before a.text rest := fun before rest =>
      (findsOnly_blanks hMarks _ _ _).append ((hName _ _).append (hValue _ _))
    rw [List.flatMap_cons]
    exact (hText _ _).append (ih (fun b hb => hAll b (List.mem_cons_of_mem _ hb)) _)

theorem findsOnly_tagEnd (closed : Bool) (before : Option Char) (rest : List Char) :
    FindsOnly pattern P before (tagEnd closed) rest := by
  refine findsOnly_marks hMarks (fun c hc => ?_) before rest
  cases closed
  · obtain rfl : c = '>' := by simpa [tagEnd] using hc
    decide
  · obtain rfl | rfl : c = '/' ∨ c = '>' := by simpa [tagEnd] using hc
    · decide
    · decide

theorem findsOnly_tag {tag : Tag} (h : FitsTag pattern P tag) (closed : Bool)
    (before : Option Char) (rest : List Char) :
    FindsOnly pattern P before (tag.text closed) rest := by
  have hText : tag.text closed = ('<' :: tag.name.1) ++
      (tag.attributes.flatMap TagAttribute.text ++ (tag.blanks.1 ++ tagEnd closed)) := by
    simp [Tag.text]
  have hEnds : endsTagName ((tag.attributes.flatMap TagAttribute.text ++
      (tag.blanks.1 ++ tagEnd closed)) ++ rest) = true := by
    obtain ⟨c, u, hBehind, hc⟩ := tag.exists_behindName closed rest
    have hAll : (tag.attributes.flatMap TagAttribute.text ++ (tag.blanks.1 ++ tagEnd closed)) ++
        rest = c :: u := by
      rw [← hBehind]
      simp only [List.append_assoc]
    refine endsTagName_iff.2 ⟨c, u, hAll, ?_⟩
    rcases hc with hSpace | rfl | rfl
    · simp [endsTag, isBlank_of_isSpace hSpace]
    · decide
    · decide
  rw [hText]
  refine (h.opening _ _ hEnds).append ((findsOnly_attributes hMarks h (fun _ => id) _ _).append ?_)
  exact (findsOnly_blanks hMarks _ _ _).append (findsOnly_tagEnd hMarks closed _ _)

theorem findsOnly_closing {tag : Tag} (h : FitsTag pattern P tag) (blanks : Blanks)
    (before : Option Char) (rest : List Char) :
    FindsOnly pattern P before (tag.closing blanks) rest := by
  have hText : tag.closing blanks = ('<' :: '/' :: tag.name.1) ++ (blanks.1 ++ ['>']) := by
    simp [Tag.closing]
  have hEnds : endsTagName (blanks.1 ++ ['>'] ++ rest) = true := by
    refine endsTagName_iff.2 ?_
    cases hBlanks : blanks.1 with
    | nil => exact ⟨'>', rest, rfl, by decide⟩
    | cons c more =>
      have hSpace := blanks.2 c (by simp [hBlanks])
      exact ⟨c, _, rfl, by simp [endsTag, isBlank_of_isSpace hSpace]⟩
  rw [hText]
  refine (h.closing _ _ hEnds).append ((findsOnly_blanks hMarks _ _ _).append ?_)
  exact findsOnly_mark hMarks (by decide) FindsOnly.nil

/-- What a pattern finds in elements one behind the other. -/
theorem findsOnly_elements {tags : Tags} (h : ∀ tag ∈ tags.tags, FitsTag pattern P tag)
    (before : Option Char) (rest : List Char) : FindsOnly pattern P before tags.text rest := by
  induction tags generalizing before rest with
  | nil gap => exact findsOnly_blanks hMarks gap before rest
  | leaf gap tag more ih =>
    have hTag := h tag List.mem_cons_self
    refine (findsOnly_blanks hMarks _ _ _).append ((findsOnly_tag hMarks hTag _ _ _).append ?_)
    exact ih (fun other hOther => h other (List.mem_cons_of_mem _ hOther)) _ _
  | branch gap tag inner blanks more ihInner ihMore =>
    have hTag := h tag List.mem_cons_self
    have hInner := ihInner fun other hOther =>
      h other (List.mem_cons_of_mem _ (List.mem_append_left _ hOther))
    have hMore := ihMore fun other hOther =>
      h other (List.mem_cons_of_mem _ (List.mem_append_right _ hOther))
    refine (findsOnly_blanks hMarks _ _ _).append ((findsOnly_tag hMarks hTag _ _ _).append ?_)
    exact (hInner _ _).append ((findsOnly_closing hMarks hTag _ _ _).append (hMore _ _))

/-- What a pattern finds in a root element of tags. -/
theorem findsOnly_tags {tags : RootTag} (h : ∀ tag ∈ tags.tags, FitsTag pattern P tag)
    (before : Option Char) (rest : List Char) : FindsOnly pattern P before tags.text rest := by
  cases tags with
  | leaf tag => exact findsOnly_tag hMarks (h tag List.mem_cons_self) true before rest
  | branch tag inner blanks =>
    have hTag := h tag List.mem_cons_self
    have hInner := findsOnly_elements hMarks fun other hOther =>
      h other (List.mem_cons_of_mem _ hOther)
    refine (findsOnly_tag hMarks hTag _ _ _).append ((hInner _ _).append ?_)
    exact findsOnly_closing hMarks hTag blanks _ _

end Tags

/-! ## Names in tags -/

section Found

variable {Q : List Char → Prop}

theorem fitsTag_elements {tag : Tag} (hClear : IsClearTag tag)
    (hQuoted : ∀ a ∈ tag.attributes, FindsOnly elementPattern Q none a.quoted []) :
    FitsTag elementPattern (fun name => (isNameOf isTagChar name = true ∧
      IsLocalPart name tag.name.1) ∨ Q name) tag where
  opening before rest hRest := (findsOnly_opening hClear hRest before).imp fun _ => .inl
  closing before rest hRest := by
    refine FindsOnly.cons (fun f hFound => ?_) (FindsOnly.cons (fun f hFound => ?_) ?_)
    · rw [elementPattern_tag] at hFound
      cases (show none = some f from hFound)
    · cases (elementPattern_mark _ (by decide) (by decide) _ _).symm.trans hFound
    · exact (findsOnly_tagName hClear hRest _ _).1
  name a ha before v := findsOnly_attributeName_elements (hClear.attributes a ha).name.chars _ _ v
  quoted a ha before rest :=
    (findsOnly_quoted_elements (hQuoted a ha) before rest).imp fun _ => .inr

theorem fitsTag_attributes {tag : Tag} (hClear : IsClearTag tag)
    (hQuoted : ∀ a ∈ tag.attributes, FindsOnly attributePattern Q none a.quoted []) :
    FitsTag attributePattern (fun name => (isNameOf isAttributeChar name = true ∧
      ∃ a ∈ tag.attributes, a.name.1 = name) ∨ Q name) tag where
  opening before rest hRest := by
    refine FindsOnly.cons (fun f hFound => ?_) (findsOnly_tagName hClear hRest _ _).2
    cases (attributePattern_mark (by decide) _ _).symm.trans hFound
  closing before rest hRest := by
    refine FindsOnly.cons (fun f hFound => ?_) (FindsOnly.cons (fun f hFound => ?_) ?_)
    · cases (attributePattern_mark (by decide) _ _).symm.trans hFound
    · cases (attributePattern_mark (by decide) _ _).symm.trans hFound
    · exact (findsOnly_tagName hClear hRest _ _).2
  name a ha before v := (findsOnly_attributeName (hClear.attributes a ha).name v).imp
    fun _ hName => .inl ⟨hName.2, a, ha, hName.1.symm⟩
  quoted a ha before rest :=
    (findsOnly_quoted_attributes (hClear.attributes a ha).free (hQuoted a ha) before rest).imp
      fun _ => .inr

/-- The names of elements that are found in tags are those in the tags, or their local parts, and
those that are found in quoted values. -/
theorem exists_of_mem_elements {tags : RootTag} (hClear : ∀ tag ∈ tags.tags, IsClearTag tag)
    (hQuoted : ∀ tag ∈ tags.tags, ∀ a ∈ tag.attributes, FindsOnly elementPattern Q none a.quoted [])
    (h : name ∈ findings elementPattern tags.text) :
    (isNameOf isTagChar name = true ∧ ∃ tag ∈ tags.tags, IsLocalPart name tag.name.1) ∨ Q name := by
  have hFits : ∀ tag ∈ tags.tags, FitsTag elementPattern (fun name =>
      (isNameOf isTagChar name = true ∧ ∃ tag ∈ tags.tags, IsLocalPart name tag.name.1) ∨ Q name)
      tag := fun tag hTag =>
    (fitsTag_elements (hClear tag hTag) (hQuoted tag hTag)).imp fun _ =>
      Or.imp_left fun hName => ⟨hName.1, tag, hTag, hName.2⟩
  exact (findsOnly_tags elementPattern_mark hFits none []).forall_mem 0 name h

/-- The names of attributes that are found in tags are those in the tags, and those that are found
in quoted values. -/
theorem exists_of_mem_attributes {tags : RootTag} (hClear : ∀ tag ∈ tags.tags, IsClearTag tag)
    (hQuoted : ∀ tag ∈ tags.tags, ∀ a ∈ tag.attributes,
      FindsOnly attributePattern Q none a.quoted [])
    (h : name ∈ findings attributePattern tags.text) :
    (isNameOf isAttributeChar name = true ∧ ∃ tag ∈ tags.tags, ∃ a ∈ tag.attributes,
      a.name.1 = name) ∨ Q name := by
  have hFits : ∀ tag ∈ tags.tags, FitsTag attributePattern (fun name =>
      (isNameOf isAttributeChar name = true ∧ ∃ tag ∈ tags.tags, ∃ a ∈ tag.attributes,
        a.name.1 = name) ∨ Q name) tag := fun tag hTag =>
    (fitsTag_attributes (hClear tag hTag) (hQuoted tag hTag)).imp fun _ =>
      Or.imp_left fun hName => ⟨hName.1, tag, hTag, hName.2⟩
  exact (findsOnly_tags (fun _ hc _ => attributePattern_mark hc) hFits none []).forall_mem 0 name h

end Found

/-! ## What stands inside -/

/-- What a comment, an instruction or a document type declaration begins with, as a pattern. -/
def markPattern : Pattern := fun _ s =>
  match s with
  | '<' :: c :: _ => if c = '?' ∨ c = '!' then some ⟨[], 2⟩ else none
  | _ => none

theorem exists_of_markPattern {f : Finding} (h : markPattern before s = some f) :
    ∃ c t, s = '<' :: c :: t ∧ (c = '?' ∨ c = '!') := by
  unfold markPattern at h
  split at h
  · next c t =>
    split at h
    · next hc => exact ⟨c, t, rfl, hc⟩
    · cases h
  · cases h

theorem findsOnly_markPattern (hs : '<' ∉ s) (before : Option Char) (rest : List Char)
    (P : List Char → Prop) : FindsOnly markPattern P before s rest := by
  intro x b hText hb f hFound
  obtain ⟨c, t, hBegins, -⟩ := exists_of_markPattern hFound
  cases b with
  | nil => exact absurd rfl hb
  | cons d b =>
    obtain rfl := (List.cons.inj hBegins).1
    exact absurd (by simp [hText]) hs

/-- No comment and no instruction begins in a tag. -/
theorem fitsTag_marks (tag : Tag) : FitsTag markPattern (fun _ => False) tag := by
  have hName (name : WrittenName) : '<' ∉ name.1 := by
    intro hMem
    exact absurd (name.2.2 _ hMem) (by decide)
  constructor
  · intro before rest _
    refine FindsOnly.cons (fun f hFound => ?_) (findsOnly_markPattern (hName tag.name) _ _ _)
    obtain ⟨c, t, hText, hMark⟩ := exists_of_markPattern hFound
    refine name_append_ne tag.name ?_ _ _ (List.cons.inj hText).2
    rcases hMark with rfl | rfl <;> decide
  · intro before rest _
    refine FindsOnly.cons (fun f hFound => ?_) (findsOnly_markPattern ?_ _ _ _)
    · obtain ⟨c, t, hText, hMark⟩ := exists_of_markPattern hFound
      obtain rfl := (List.cons.inj (List.cons.inj hText).2).1
      exact absurd hMark (by decide)
    · rw [List.mem_cons]
      exact not_or.2 ⟨by decide, hName tag.name⟩
  · exact fun a _ before v => findsOnly_markPattern (hName a.name) _ _ _
  · intro a _ before rest
    refine findsOnly_markPattern (fun hMem => ?_) _ _ _
    rcases List.mem_cons.1 hMem with hFirst | hMem
    · rcases a.isQuote with h | h <;> rw [h] at hFirst <;> exact absurd hFirst (by decide)
    · rcases List.mem_append.1 hMem with hMem | hLast
      · exact (a.ends _ hMem).2 rfl
      · have hFirst := List.mem_singleton.1 hLast
        rcases a.isQuote with h | h <;> rw [h] at hFirst <;> exact absurd hFirst (by decide)

/-- No comment and no instruction begins in a root element of tags. -/
theorem not_mark_suffix (tags : RootTag) {c : Char} (hc : c = '?' ∨ c = '!') :
    ¬ '<' :: c :: t <:+ tags.text := by
  rintro ⟨x, hText⟩
  have hMarks : PassesMarks markPattern := by
    intro c _ hTag before s
    rw [Option.eq_none_iff_forall_ne_some]
    intro f hFound
    obtain ⟨d, u, hBegins, -⟩ := exists_of_markPattern hFound
    exact hTag (List.cons.inj hBegins).1
  have hNothing := findsOnly_tags hMarks (fun tag (_ : tag ∈ tags.tags) => fitsTag_marks tag) none []
  refine hNothing x ('<' :: c :: t) hText.symm (by simp) ⟨[], 2⟩ ?_
  rw [List.append_nil]
  exact if_pos hc

theorem not_miscMark_suffix (tags : RootTag) {m : String × String} (hm : m ∈ miscMarks) :
    ¬m.1.toList ++ t <:+ tags.text := by
  simp only [miscMarks, List.mem_cons, List.not_mem_nil, or_false] at hm
  rcases hm with rfl | rfl
  · exact not_mark_suffix tags (.inl rfl)
  · exact not_mark_suffix tags (.inr rfl)

/-- No end of tags looks like an epilog. -/
theorem not_isMisc_suffix {tags : RootTag} (hClosed : ∃ x, tags.text = x ++ ['>'])
    (h : s <:+ tags.text) (hs : s ≠ []) : isMisc s = false := by
  fun_induction isMisc s with
  | case1 s t hItem ih =>
    rcases behindMisc?_eq_some_iff.1 hItem with ⟨c, hBlank, rfl⟩ | ⟨m, hm, u, x, rfl, -⟩
    · by_cases hNil : t = []
      · obtain ⟨y, hLast⟩ := exists_last_of_suffix hClosed h hs
        rw [hNil] at hLast
        obtain rfl : c = '>' := by
          simpa using congrArg List.getLast? hLast
        exact absurd hBlank (by decide)
      · exact ih ((List.suffix_cons c t).trans h) hNil
    · exact absurd h (not_miscMark_suffix tags hm)
  | case2 s hNone => simpa using hs

theorem withoutEpilog_eq_self (h : ∀ t, t <:+ s → t ≠ [] → isMisc t = false) :
    withoutEpilog s = s := by
  induction s with
  | nil => rfl
  | cons c s ih =>
    rw [withoutEpilog, h _ (List.suffix_refl _) (List.cons_ne_nil c s),
      ih fun t ht => h t (ht.trans (List.suffix_cons c s))]
    rfl

/-- What stands inside of a document of tags are the tags. -/
theorem inside_tags {prolog epilog : List Char} {tags : RootTag}
    (h : Parts prolog [] tags.text epilog) : inside (prolog ++ tags.text ++ epilog) = tags.text := by
  have hEnds : HoldsEnds tags.text epilog := fun m hm t hSuffix _ =>
    absurd hSuffix (not_miscMark_suffix tags hm)
  obtain ⟨c, x, hStart, hc⟩ := h.start
  rw [inside_of_parts h (.inl rfl) hEnds, inside, hStart, withoutProlog_of_start hc x, ← hStart]
  exact withoutEpilog_eq_self fun t => not_isMisc_suffix h.closed

end SvgBuilder.Comparison
