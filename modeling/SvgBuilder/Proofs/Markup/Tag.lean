import SvgBuilder.Markup.Document
import SvgBuilder.Proofs.Markup.Heading
import SvgBuilder.Proofs.Markup.Names
import SvgBuilder.Proofs.Text.LineEnd

/-!
# Tags

Markup that consists of tags: elements with attributes, one in another, with nothing but blanks
between them.  Its text determines what is read from it, so that the names of what is read are the
names in the tags.

## Main results

* `RootTag.normalized_text`: making one line feed of every line end keeps tags tags.
* `ensures_readNodes_text`, `names_readRoot`: what is read has the names in the tags.
-/

namespace SvgBuilder.Markup

open SvgBuilder.Text

/-! ## Parts of tags -/

/-- Texts of nothing but blanks. -/
abbrev Blanks := { s : List Char // ∀ c ∈ s, isSpace c = true }

/-- Texts that may be names. -/
abbrev WrittenName := { s : List Char // s ≠ [] ∧ IsNameText s }

/-- An attribute or a declaration in a tag, with the blanks before it. -/
structure TagAttribute where
  before : Blanks
  name : WrittenName
  behindName : Blanks
  behindSign : Blanks
  quote : Char
  value : List Char
  separated : before.1 ≠ []
  isQuote : quote = '\x22' ∨ quote = '\x27'
  /-- The value ends before the tag does. -/
  ends : ∀ c ∈ value, c ≠ quote ∧ c ≠ '<'

/-- A tag that begins an element, without its end. -/
structure Tag where
  name : WrittenName
  attributes : List TagAttribute
  blanks : Blanks

/-- Elements one behind the other, each behind a gap of blanks, and the gap behind the last one. -/
inductive Tags where
  | nil (gap : Blanks)
  /-- An element that ends with its tag. -/
  | leaf (gap : Blanks) (tag : Tag) (more : Tags)
  /-- An element with a closing tag. -/
  | branch (gap : Blanks) (tag : Tag) (inner : Tags) (blanks : Blanks) (more : Tags)

/-- The only element of its level. -/
inductive RootTag where
  | leaf (tag : Tag)
  | branch (tag : Tag) (inner : Tags) (blanks : Blanks)

/-! ## Texts -/

/-- A value in its quotes. -/
def TagAttribute.quoted (a : TagAttribute) : List Char := a.quote :: (a.value ++ [a.quote])

def TagAttribute.text (a : TagAttribute) : List Char :=
  a.before.1 ++ (a.name.1 ++ (a.behindName.1 ++ '=' :: (a.behindSign.1 ++ a.quoted)))

/-- The end of a tag, which may be that of its element. -/
def tagEnd (closed : Bool) : List Char := if closed then ['/', '>'] else ['>']

/-- The text of a tag, which may be all of its element. -/
def Tag.text (t : Tag) (closed : Bool) : List Char :=
  '<' :: (t.name.1 ++ (t.attributes.flatMap TagAttribute.text ++ (t.blanks.1 ++ tagEnd closed)))

/-- The text of a closing tag. -/
def Tag.closing (t : Tag) (blanks : Blanks) : List Char :=
  '<' :: '/' :: (t.name.1 ++ (blanks.1 ++ ['>']))

def Tags.text : Tags → List Char
  | nil gap => gap.1
  | leaf gap tag more => gap.1 ++ (tag.text true ++ more.text)
  | branch gap tag inner blanks more =>
    gap.1 ++ (tag.text false ++ (inner.text ++ (tag.closing blanks ++ more.text)))

def RootTag.text : RootTag → List Char
  | leaf tag => tag.text true
  | branch tag inner blanks => tag.text false ++ (inner.text ++ tag.closing blanks)

theorem Tag.text_append (t : Tag) (closed : Bool) (s : List Char) :
    t.text closed ++ s = '<' :: (t.name.1 ++ (t.attributes.flatMap TagAttribute.text ++
      (t.blanks.1 ++ (tagEnd closed ++ s)))) := by
  simp [Tag.text]

theorem not_isNameChar_of_isSpace {c : Char} (h : isSpace c = true) : isNameChar c = false := by
  simp only [isSpace, Bool.or_eq_true, decide_eq_true_eq] at h
  rcases h with ((rfl | rfl) | rfl) | rfl <;> decide

/-- The first character of a name, which is no blank. -/
theorem exists_first (name : WrittenName) :
    ∃ c t, name.1 = c :: t ∧ isNameChar c = true ∧ isSpace c = false := by
  obtain ⟨name, hSome, hName⟩ := name
  cases name with
  | nil => exact absurd rfl hSome
  | cons c t =>
    have hc := hName c (by simp)
    refine ⟨c, t, rfl, hc, Bool.not_eq_true _ ▸ fun hSpace => ?_⟩
    exact absurd hc (by simp [not_isNameChar_of_isSpace hSpace])

/-- A text that begins with a name does not begin with another character. -/
theorem name_append_ne {c : Char} (name : WrittenName) (h : isNameChar c = false)
    (s t : List Char) :
    name.1 ++ s ≠ c :: t := by
  obtain ⟨d, u, hName, hd, -⟩ := exists_first name
  rw [hName]
  intro hText
  rw [(List.cons.inj hText).1, h] at hd
  cases hd

/-! ## Names -/

/-- The tags of some elements, in document order. -/
def Tags.tags : Tags → List Tag
  | nil _ => []
  | leaf _ tag more => tag :: more.tags
  | branch _ tag inner _ more => tag :: (inner.tags ++ more.tags)

/-- The tags of a root element, in document order. -/
def RootTag.tags : RootTag → List Tag
  | leaf tag => [tag]
  | branch tag inner _ => tag :: inner.tags

/-- The names in a tag: that of the element, and those of its attributes and declarations. -/
structure TagNames where
  name : List Char
  attributes : List (List Char)

def Tag.names (t : Tag) : TagNames := ⟨t.name.1, t.attributes.map (·.name.1)⟩

mutual

/-- The names in the tags of a draft, in document order. -/
def Draft.names : Draft → List TagNames
  | .element name attributes children =>
    ⟨name, attributes.map (·.name)⟩ :: Draft.namesOf children
  | _ => []

/-- The names in the tags of some drafts. -/
def Draft.namesOf : List Draft → List TagNames
  | [] => []
  | draft :: drafts => draft.names ++ Draft.namesOf drafts

end

theorem namesOf_prependChar (c : Char) (drafts : List Draft) :
    Draft.namesOf (Draft.prependChar c drafts) = Draft.namesOf drafts := by
  unfold Draft.prependChar
  split <;> simp [Draft.namesOf, Draft.names]

theorem namesOf_ofPieces (pieces : List Piece) : Draft.namesOf (Draft.ofPieces pieces) = [] := by
  induction pieces with
  | nil => rfl
  | cons piece pieces ih =>
    cases piece with
    | char c => rw [Draft.ofPieces, namesOf_prependChar, ih]
    | entity name => simp [Draft.ofPieces, Draft.namesOf, Draft.names, ih]

theorem namesOf_join (drafts more : List Draft) :
    Draft.namesOf (Draft.join drafts more) = Draft.namesOf drafts ++ Draft.namesOf more := by
  fun_induction Draft.join drafts more with
  | case1 => rfl
  | case2 => simp [Draft.namesOf, Draft.names]
  | case3 d ds more _ ih => rw [Draft.namesOf, Draft.namesOf, ih, List.append_assoc]

/-- No element is read from text between tags. -/
theorem namesOf_readText (s : List Char) :
    Ensures (readText s) fun drafts => Draft.namesOf drafts = [] := by
  unfold readText
  split
  · exact Ensures.error _ _
  · exact (Ensures.trivial _).bind fun pieces _ => Ensures.pure (namesOf_ofPieces pieces)

/-! ## Line ends in tags -/

/-- Blanks with one kind of line end. -/
def normalizedBlanks (blanks : Blanks) : Blanks :=
  ⟨normalized blanks.1, fun c hc => by
    rcases mem_of_mem_normalized hc with hMem | rfl
    · exact blanks.2 c hMem
    · decide⟩

theorem noLineEnd_of_name (name : WrittenName) : NoLineEnd name.1 := by
  intro c hc
  have hChar := name.2.2 c hc
  constructor
  · rintro rfl
    exact absurd hChar (by decide)
  · rintro rfl
    exact absurd hChar (by decide)

theorem normalized_gap {s : List Char} (h : s.head? ≠ some '\n') (blanks : Blanks) :
    normalized (blanks.1 ++ s) = (normalizedBlanks blanks).1 ++ normalized s :=
  normalized_append_of_head h

def TagAttribute.normalized (a : TagAttribute) : TagAttribute where
  before := normalizedBlanks a.before
  name := a.name
  behindName := normalizedBlanks a.behindName
  behindSign := normalizedBlanks a.behindSign
  quote := a.quote
  value := Text.normalized a.value
  separated := mt eq_of_normalized_eq_nil a.separated
  isQuote := a.isQuote
  ends c hc := by
    rcases mem_of_mem_normalized hc with hMem | rfl
    · exact a.ends c hMem
    · rcases a.isQuote with hQuote | hQuote <;> rw [hQuote] <;> decide

def Tag.normalized (t : Tag) : Tag :=
  ⟨t.name, t.attributes.map TagAttribute.normalized, normalizedBlanks t.blanks⟩

def Tags.normalized : Tags → Tags
  | nil gap => nil (normalizedBlanks gap)
  | leaf gap tag more => leaf (normalizedBlanks gap) tag.normalized more.normalized
  | branch gap tag inner blanks more =>
    branch (normalizedBlanks gap) tag.normalized inner.normalized (normalizedBlanks blanks)
      more.normalized

def RootTag.normalized : RootTag → RootTag
  | leaf tag => leaf tag.normalized
  | branch tag inner blanks => branch tag.normalized inner.normalized (normalizedBlanks blanks)

theorem Tag.names_normalized (t : Tag) : t.normalized.names = t.names := by
  simp [Tag.names, Tag.normalized, TagAttribute.normalized, Function.comp_def]

theorem Tags.names_normalized (tags : Tags) :
    tags.normalized.tags.map Tag.names = tags.tags.map Tag.names := by
  induction tags with
  | nil gap => rfl
  | leaf gap tag more ih => simp [Tags.normalized, Tags.tags, Tag.names_normalized, ih]
  | branch gap tag inner blanks more ihInner ihMore =>
    simp [Tags.normalized, Tags.tags, Tag.names_normalized, ihInner, ihMore]

theorem RootTag.names_normalized (root : RootTag) :
    root.normalized.tags.map Tag.names = root.tags.map Tag.names := by
  cases root with
  | leaf tag => simp [RootTag.normalized, RootTag.tags, Tag.names_normalized]
  | branch tag inner blanks =>
    simp [RootTag.normalized, RootTag.tags, Tag.names_normalized, Tags.names_normalized]

theorem head?_name_ne (name : WrittenName) (s : List Char) :
    (name.1 ++ s).head? ≠ some '\n' := by
  have hFirst := name_append_ne (c := '\n') name (by decide) s
  intro hHead
  obtain ⟨t, ht⟩ := List.head?_eq_some_iff.1 hHead
  exact hFirst t ht

theorem normalized_quoted (a : TagAttribute) (s : List Char) :
    Text.normalized (a.quoted ++ s) = a.normalized.quoted ++ Text.normalized s := by
  have hQuote : NoLineEnd [a.quote] := by
    rcases a.isQuote with h | h <;> rw [h] <;> decide
  have hHead : ([a.quote] ++ s).head? ≠ some '\n' := by
    rcases a.isQuote with h | h <;> rw [h] <;> simp
  calc Text.normalized (a.quoted ++ s)
    _ = Text.normalized ([a.quote] ++ (a.value ++ ([a.quote] ++ s))) := by
      simp [TagAttribute.quoted]
    _ = [a.quote] ++ (Text.normalized a.value ++ ([a.quote] ++ Text.normalized s)) := by
      rw [normalized_append hQuote, normalized_append_of_head hHead, normalized_append hQuote]
    _ = a.normalized.quoted ++ Text.normalized s := by
      simp [TagAttribute.quoted, TagAttribute.normalized]

theorem TagAttribute.normalized_text (a : TagAttribute) (s : List Char) :
    Text.normalized (a.text ++ s) = a.normalized.text ++ Text.normalized s := by
  have hText (b : TagAttribute) (t : List Char) : b.text ++ t =
      b.before.1 ++ (b.name.1 ++ (b.behindName.1 ++ '=' :: (b.behindSign.1 ++ (b.quoted ++ t)))) := by
    simp [TagAttribute.text]
  have hQuote : (a.quoted ++ s).head? ≠ some '\n' := by
    rcases a.isQuote with h | h <;> simp [TagAttribute.quoted, h]
  rw [hText, hText, normalized_gap (head?_name_ne _ _), normalized_append (noLineEnd_of_name _),
    normalized_gap (by simp), normalized_cons (by decide), normalized_gap hQuote, normalized_quoted]
  rfl

theorem normalized_attributes (attributes : List TagAttribute) (s : List Char) :
    normalized (attributes.flatMap TagAttribute.text ++ s) =
      (attributes.map TagAttribute.normalized).flatMap TagAttribute.text ++ normalized s := by
  induction attributes with
  | nil => rfl
  | cons a attributes ih =>
    rw [List.flatMap_cons, List.append_assoc, a.normalized_text, ih, List.map_cons,
      List.flatMap_cons, List.append_assoc]

theorem normalized_tagEnd (closed : Bool) (s : List Char) :
    normalized (tagEnd closed ++ s) = tagEnd closed ++ normalized s := by
  cases closed
  · exact normalized_append (by decide) s
  · exact normalized_append (by decide) s

theorem Tag.normalized_text (t : Tag) (closed : Bool) (s : List Char) :
    Text.normalized (t.text closed ++ s) = t.normalized.text closed ++ Text.normalized s := by
  have hEnd : (tagEnd closed ++ s).head? ≠ some '\n' := by
    cases closed <;> simp [tagEnd]
  rw [Tag.text_append, Tag.text_append, normalized_cons (by decide),
    normalized_append (noLineEnd_of_name _), normalized_attributes, normalized_gap hEnd,
    normalized_tagEnd]
  rfl

theorem Tag.normalized_closing (t : Tag) (blanks : Blanks) (s : List Char) :
    Text.normalized (t.closing blanks ++ s) =
      t.normalized.closing (normalizedBlanks blanks) ++ Text.normalized s := by
  have hText (u : Tag) (b : Blanks) (r : List Char) :
      u.closing b ++ r = '<' :: '/' :: (u.name.1 ++ (b.1 ++ '>' :: r)) := by
    simp [Tag.closing]
  rw [hText, hText, normalized_cons (by decide), normalized_cons (by decide),
    normalized_append (noLineEnd_of_name _), normalized_gap (by simp), normalized_cons (by decide)]
  rfl

/-- Tags stay tags when line ends are made one. -/
theorem Tags.normalized_text (tags : Tags) {s : List Char} (h : s.head? ≠ some '\n') :
    Text.normalized (tags.text ++ s) = tags.normalized.text ++ Text.normalized s := by
  have hTag (t : Tag) (closed : Bool) (s : List Char) : (t.text closed ++ s).head? ≠ some '\n' := by
    rw [Tag.text_append]
    simp
  have hClosing (t : Tag) (blanks : Blanks) (s : List Char) :
      (t.closing blanks ++ s).head? ≠ some '\n' := by
    simp [Tag.closing]
  induction tags generalizing s with
  | nil gap => exact normalized_gap h gap
  | leaf gap tag more ih =>
    simp only [Tags.text, Tags.normalized, List.append_assoc]
    rw [normalized_gap (hTag _ _ _), tag.normalized_text, ih h]
  | branch gap tag inner blanks more ihInner ihMore =>
    simp only [Tags.text, Tags.normalized, List.append_assoc]
    rw [normalized_gap (hTag _ _ _), tag.normalized_text, ihInner (hClosing _ _ _),
      tag.normalized_closing, ihMore h]

theorem RootTag.normalized_text (root : RootTag) (s : List Char) :
    Text.normalized (root.text ++ s) = root.normalized.text ++ Text.normalized s := by
  cases root with
  | leaf tag => exact tag.normalized_text true s
  | branch tag inner blanks =>
    have hClosing : (tag.closing blanks ++ s).head? ≠ some '\n' := by
      simp [Tag.closing]
    simp only [RootTag.text, RootTag.normalized, List.append_assoc]
    rw [tag.normalized_text, inner.normalized_text hClosing, tag.normalized_closing]

/-! ## Reading tags -/

section Reading

variable {s : List Char} {c : Char}

/-- Whether a text begins with something that does not go on a name. -/
def EndsName (s : List Char) : Prop := ∃ c t, s = c :: t ∧ isNameChar c = false

theorem endsName_cons (h : isNameChar c = false) (s : List Char) : EndsName (c :: s) :=
  ⟨c, s, rfl, h⟩

theorem endsName_blanks (blanks : Blanks) (h : EndsName s) : EndsName (blanks.1 ++ s) := by
  obtain ⟨blanks, hBlanks⟩ := blanks
  cases blanks with
  | nil => exact h
  | cons c blanks => exact endsName_cons (not_isNameChar_of_isSpace (hBlanks c (by simp))) _

theorem ensures_readName_text (fault : Fault) (name : WrittenName) (h : EndsName s) :
    Ensures (readName fault (name.1 ++ s)) fun r => r = (name.1, s) := by
  obtain ⟨name, hSome, hName⟩ := name
  obtain ⟨d, t, rfl, hd⟩ := h
  cases name with
  | nil => exact absurd rfl hSome
  | cons c name =>
    have hAll : ∀ e ∈ name, isNameChar e = true := fun e he => hName e (List.mem_cons_of_mem _ he)
    have hTake : (name ++ d :: t).takeWhile isNameChar = name := by
      rw [List.takeWhile_append_of_pos hAll, List.takeWhile_cons_of_neg (by simp [hd]),
        List.append_nil]
    have hDrop : (name ++ d :: t).dropWhile isNameChar = d :: t := by
      rw [List.dropWhile_append_of_pos hAll, List.dropWhile_cons_of_neg (by simp [hd])]
    rw [List.cons_append, readName, hTake, hDrop]
    dsimp only
    split
    · exact Ensures.ok rfl
    · exact Ensures.error _ _

theorem skipSpace_blanks (blanks : Blanks) (h : isSpace c = false) (s : List Char) :
    skipSpace (blanks.1 ++ c :: s) = c :: s := by
  rw [skipSpace, List.dropWhile_append_of_pos blanks.2, List.dropWhile_cons_of_neg (by simp [h])]

theorem skipSpace_name (blanks : Blanks) (name : WrittenName) (s : List Char) :
    skipSpace (blanks.1 ++ (name.1 ++ s)) = name.1 ++ s := by
  obtain ⟨c, t, hName, -, hSpace⟩ := exists_first name
  rw [hName]
  exact skipSpace_blanks blanks hSpace _

theorem skipSpace_quoted (blanks : Blanks) (a : TagAttribute) (s : List Char) :
    skipSpace (blanks.1 ++ (a.quoted ++ s)) = a.quoted ++ s := by
  have hQuote : isSpace a.quote = false := by
    rcases a.isQuote with h | h <;> rw [h] <;> decide
  exact skipSpace_blanks blanks hQuote _

theorem beginsWithSpace_blanks {blanks : Blanks} (h : blanks.1 ≠ []) (s : List Char) :
    beginsWithSpace (blanks.1 ++ s) = true := by
  obtain ⟨blanks, hBlanks⟩ := blanks
  cases blanks with
  | nil => exact absurd rfl h
  | cons c blanks =>
    show isSpace c = true
    exact hBlanks c (by simp)

theorem ensures_requireChar_text (fault : Fault) (blanks : Blanks) (h : isSpace c = false)
    (s : List Char) :
    Ensures (requireChar fault c (skipSpace (blanks.1 ++ c :: s))) fun t => t = s := by
  rw [skipSpace_blanks blanks h, requireChar, if_pos rfl]
  exact Ensures.ok rfl

theorem readQuoted_quoted (fault : Fault) (a : TagAttribute) (s : List Char) :
    readQuoted fault (a.quoted ++ s) = .ok (a.value, s) := by
  have hStop : upTo [a.quote] (a.value ++ [a.quote] ++ s) = some (a.value, s) := by
    have hFree : a.quote ∉ a.value := fun h => (a.ends _ h).1 rfl
    rw [List.append_assoc, upTo_append_left hFree, upTo_self]
    simp
  rw [TagAttribute.quoted, List.cons_append, readQuoted, if_pos a.isQuote, hStop]

/-- At the end of a tag no attribute is read. -/
theorem ensures_readAttributes_end (steps : Nat) (blanks : Blanks) (closed : Bool)
    (s : List Char) :
    Ensures (readAttributes (steps + 1) (blanks.1 ++ (tagEnd closed ++ s))) fun r =>
      r = (([], closed), s) := by
  rw [readAttributes]
  cases closed with
  | false =>
    have hEnd : skipSpace (blanks.1 ++ (tagEnd false ++ s)) = '>' :: s :=
      skipSpace_blanks blanks (by decide) s
    rw [hEnd]
    exact Ensures.ok rfl
  | true =>
    have hEnd : skipSpace (blanks.1 ++ (tagEnd true ++ s)) = '/' :: '>' :: s :=
      skipSpace_blanks blanks (by decide) _
    rw [hEnd]
    exact Ensures.ok rfl

/-- An attribute is read with its name, and then the others. -/
theorem ensures_readAttributes_cons {steps : Nat} (a : TagAttribute)
    {names : List (List Char)} {closed : Bool} {rest : List Char}
    (h : Ensures (readAttributes steps s) fun r =>
      r.1.1.map (·.name) = names ∧ r.1.2 = closed ∧ r.2 = rest) :
    Ensures (readAttributes (steps + 1) (a.text ++ s)) fun r =>
      r.1.1.map (·.name) = a.name.1 :: names ∧ r.1.2 = closed ∧ r.2 = rest := by
  have hText : a.text ++ s =
      a.before.1 ++ (a.name.1 ++ (a.behindName.1 ++ '=' :: (a.behindSign.1 ++ (a.quoted ++ s)))) := by
    simp [TagAttribute.text]
  have hEnds : EndsName (a.behindName.1 ++ '=' :: (a.behindSign.1 ++ (a.quoted ++ s))) :=
    endsName_blanks _ (endsName_cons (by decide) _)
  have hQuoted : readQuoted .markup (skipSpace (a.behindSign.1 ++ (a.quoted ++ s))) =
      .ok (a.value, s) := by
    rw [skipSpace_quoted, readQuoted_quoted]
  rw [hText, readAttributes, beginsWithSpace_blanks a.separated, skipSpace_name]
  split
  · next hFirst => exact absurd hFirst (name_append_ne a.name (by decide) _ _)
  · next hFirst => exact absurd hFirst (name_append_ne a.name (by decide) _ _)
  · refine (ensures_readName_text _ a.name hEnds).bind fun r hr => ?_
    subst hr
    refine (ensures_requireChar_text _ a.behindName (by decide) _).bind fun t ht => ?_
    subst ht
    rw [hQuoted]
    refine (Ensures.ok (P := fun r => r = (a.value, s)) rfl).bind fun r hr => ?_
    subst hr
    refine (Ensures.trivial _).bind fun value _ => h.bind fun more hMore => ?_
    refine Ensures.pure ⟨?_, hMore.2⟩
    rw [List.map_cons, hMore.1]

/-- What is read from the attributes of a tag. -/
theorem ensures_readAttributes_text (steps : Nat) (attributes : List TagAttribute)
    (blanks : Blanks) (closed : Bool) (s : List Char) :
    Ensures (readAttributes steps (attributes.flatMap TagAttribute.text ++
        (blanks.1 ++ (tagEnd closed ++ s)))) fun r =>
      r.1.1.map (·.name) = attributes.map (·.name.1) ∧ r.1.2 = closed ∧ r.2 = s := by
  induction attributes generalizing steps with
  | nil =>
    cases steps with
    | zero => exact Ensures.error _ _
    | succ steps =>
      refine (ensures_readAttributes_end steps blanks closed s).imp fun r hr => ?_
      subst hr
      exact ⟨rfl, rfl, rfl⟩
  | cons a attributes ih =>
    cases steps with
    | zero => exact Ensures.error _ _
    | succ steps =>
      rw [List.flatMap_cons, List.append_assoc]
      exact ensures_readAttributes_cons a (ih steps)

theorem ensures_readClosing_text (t : Tag) (blanks : Blanks) (s : List Char) :
    Ensures (readClosing t.name.1 (t.closing blanks ++ s)) fun r => r = s := by
  have hText : t.closing blanks ++ s = "</".toList ++ (t.name.1 ++ (blanks.1 ++ '>' :: s)) := by
    simp [Tag.closing]
  have hEnds : EndsName (blanks.1 ++ '>' :: s) := endsName_blanks _ (endsName_cons (by decide) _)
  rw [readClosing, behind?_eq_some_iff.2 hText]
  refine (ensures_readName_text _ t.name hEnds).bind fun r hr => ?_
  subst hr
  dsimp only
  rw [if_neg (by simp)]
  exact ensures_requireChar_text _ blanks (by decide) s

/-- A gap before a tag holds no names. -/
theorem ensures_readNodes_gap {depth : Nat} {names : List TagNames} {rest : List Char}
    (h : ∀ steps, Ensures (readNodes steps depth ('<' :: s)) fun r =>
      Draft.namesOf r.1 = names ∧ r.2 = rest) (steps : Nat) (gap : Blanks) :
    Ensures (readNodes steps depth (gap.1 ++ '<' :: s)) fun r =>
      Draft.namesOf r.1 = names ∧ r.2 = rest := by
  obtain ⟨gap, hGap⟩ := gap
  cases gap with
  | nil => exact h steps
  | cons c gap =>
    have hTag : ∀ d ∈ c :: gap, d ≠ '<' := by
      intro d hd hTag
      rw [hTag] at hd
      exact absurd (hGap _ hd) (by decide)
    have hFirst : c ≠ '<' := hTag c (by simp)
    have hDrop : (c :: gap ++ '<' :: s).dropWhile (· ≠ '<') = '<' :: s := by
      rw [List.dropWhile_append_of_pos fun d hd => by simpa using hTag d hd]
      exact List.dropWhile_cons_of_neg (by simp)
    cases steps with
    | zero => exact Ensures.error _ _
    | succ steps =>
      dsimp only
      rw [List.cons_append] at hDrop ⊢
      unfold readNodes
      split
      case h_6 =>
        refine (namesOf_readText _).bind fun drafts hDrafts => ?_
        rw [hDrop]
        refine (h steps).bind fun more hMore => Ensures.pure ⟨?_, hMore.2⟩
        rw [namesOf_join, hDrafts, hMore.1, List.nil_append]
      case h_1 hNil => cases hNil
      all_goals
        next hText => exact absurd (List.cons.inj hText).1 hFirst

/-- On the name of a tag a blank follows, or its end. -/
theorem Tag.exists_behindName (t : Tag) (closed : Bool) (s : List Char) :
    ∃ c u, t.attributes.flatMap TagAttribute.text ++ (t.blanks.1 ++ (tagEnd closed ++ s)) = c :: u ∧
      (isSpace c = true ∨ c = '/' ∨ c = '>') := by
  cases t.attributes with
  | nil =>
    rw [List.flatMap_nil, List.nil_append]
    cases hBlanks : t.blanks.1 with
    | nil =>
      cases closed
      · exact ⟨'>', s, rfl, .inr (.inr rfl)⟩
      · exact ⟨'/', '>' :: s, rfl, .inr (.inl rfl)⟩
    | cons c blanks => exact ⟨c, _, rfl, .inl (t.blanks.2 c (by simp [hBlanks]))⟩
  | cons a attributes =>
    rw [List.flatMap_cons, TagAttribute.text]
    cases hBefore : a.before.1 with
    | nil => exact absurd hBefore a.separated
    | cons c before => exact ⟨c, _, rfl, .inl (a.before.2 c (by simp [hBefore]))⟩

theorem Tag.endsName (t : Tag) (closed : Bool) (s : List Char) :
    EndsName (t.attributes.flatMap TagAttribute.text ++ (t.blanks.1 ++ (tagEnd closed ++ s))) := by
  obtain ⟨c, u, hText, hc⟩ := t.exists_behindName closed s
  rw [hText]
  refine endsName_cons ?_ u
  rcases hc with hSpace | rfl | rfl
  · exact not_isNameChar_of_isSpace hSpace
  · decide
  · decide

/-- What is read from an element among others has the names in its tag, those in it, and those
behind it. -/
theorem ensures_readNodes_tag (t : Tag) (closed : Bool) {s u rest : List Char} {steps depth : Nat}
    {names more : List TagNames}
    (hLeaf : closed = true → names = [] ∧ s = u)
    (hInner : closed = false → ∃ blanks, Ensures (readNodes steps (depth + 1) s) fun r =>
      Draft.namesOf r.1 = names ∧ r.2 = t.closing blanks ++ u)
    (hMore : Ensures (readNodes steps depth u) fun r => Draft.namesOf r.1 = more ∧ r.2 = rest) :
    Ensures (readNodes (steps + 1) depth (t.text closed ++ s)) fun r =>
      Draft.namesOf r.1 = t.names :: (names ++ more) ∧ r.2 = rest := by
  rw [Tag.text_append]
  generalize hBehind : t.attributes.flatMap TagAttribute.text ++
    (t.blanks.1 ++ (tagEnd closed ++ s)) = behind
  have hNot {c : Char} (hc : isNameChar c = false) (v : List Char) :
      '<' :: (t.name.1 ++ behind) ≠ '<' :: c :: v :=
    fun hText => name_append_ne t.name hc _ _ (List.cons.inj hText).2
  unfold readNodes
  split
  case h_5 hText =>
    obtain ⟨-, rfl⟩ := List.cons.inj hText
    subst hBehind
    refine (ensures_readName_text _ t.name (t.endsName closed s)).bind fun r hr => ?_
    subst hr
    refine (ensures_readAttributes_text _ _ _ _ _).bind fun r hr => ?_
    obtain ⟨⟨attributes, found⟩, left⟩ := r
    obtain ⟨hNames, rfl, rfl⟩ := hr
    have hElement (children : List Draft) (hChildren : Draft.namesOf children = names) :
        Ensures (readNodes steps depth u >>= fun r =>
          pure (.element t.name.1 attributes children :: r.1, r.2)) fun r =>
            Draft.namesOf r.1 = t.names :: (names ++ more) ∧ r.2 = rest := by
      refine hMore.bind fun r hr => Ensures.pure ⟨?_, hr.2⟩
      rw [Draft.namesOf, Draft.names, hNames, hChildren, hr.1]
      rfl
    dsimp only
    split
    · exact Ensures.error _ _
    · split
      · next hClosed =>
        obtain ⟨rfl, rfl⟩ := hLeaf hClosed
        exact hElement [] rfl
      · next hOpen =>
        obtain ⟨blanks, hInner⟩ := hInner (by simpa using hOpen)
        refine hInner.bind fun r hr => ?_
        rw [hr.2]
        refine (ensures_readClosing_text t blanks u).bind fun v hv => ?_
        subst hv
        exact hElement r.1 hr.1
  case h_1 hNil => cases hNil
  case h_2 hText => exact absurd hText (hNot (by decide) _)
  case h_3 hText => exact absurd hText (hNot (by decide) _)
  case h_4 hText => exact absurd hText (hNot (by decide) _)
  case h_6 hOther => exact absurd rfl (hOther _)

/-- What is read from elements up to a closing tag has the names in their tags. -/
theorem ensures_readNodes_text (tags : Tags) (steps depth : Nat) (s : List Char) :
    Ensures (readNodes steps depth (tags.text ++ '<' :: '/' :: s)) fun r =>
      Draft.namesOf r.1 = tags.tags.map Tag.names ∧ r.2 = '<' :: '/' :: s := by
  induction tags generalizing steps depth s with
  | nil gap =>
    refine ensures_readNodes_gap (fun steps => ?_) steps gap
    cases steps with
    | zero => exact Ensures.error _ _
    | succ steps => exact Ensures.ok ⟨rfl, rfl⟩
  | leaf gap tag more ih =>
    have hText : (Tags.leaf gap tag more).text ++ '<' :: '/' :: s =
        gap.1 ++ (tag.text true ++ (more.text ++ '<' :: '/' :: s)) := by
      simp [Tags.text]
    rw [hText]
    refine ensures_readNodes_gap (fun steps => ?_) steps gap
    cases steps with
    | zero => exact Ensures.error _ _
    | succ steps =>
      exact ensures_readNodes_tag tag true (fun _ => ⟨rfl, rfl⟩) (by simp) (ih steps depth s)
  | branch gap tag inner blanks more ihInner ihMore =>
    have hText : (Tags.branch gap tag inner blanks more).text ++ '<' :: '/' :: s =
        gap.1 ++ (tag.text false ++ (inner.text ++ (tag.closing blanks ++
          (more.text ++ '<' :: '/' :: s)))) := by
      simp [Tags.text]
    rw [hText, Tags.tags, List.map_cons, List.map_append]
    refine ensures_readNodes_gap (fun steps => ?_) steps gap
    cases steps with
    | zero => exact Ensures.error _ _
    | succ steps =>
      exact ensures_readNodes_tag tag false (by simp)
        (fun _ => ⟨blanks, ihInner steps (depth + 1) _⟩) (ihMore steps depth s)

/-- What is read from a root element has the names in its tags. -/
theorem ensures_readRoot_text (root : RootTag) (s : List Char) :
    Ensures (readRoot (root.text ++ s)) fun r =>
      r.1.names = root.tags.map Tag.names ∧ r.2 = s := by
  cases root with
  | leaf tag =>
    rw [RootTag.text, Tag.text_append, readRoot]
    refine (ensures_readName_text _ tag.name (tag.endsName true s)).bind fun r hr => ?_
    subst hr
    refine (ensures_readAttributes_text _ _ _ _ _).bind fun r hr => ?_
    obtain ⟨⟨attributes, found⟩, left⟩ := r
    obtain ⟨hNames, rfl, rfl⟩ := hr
    dsimp only
    rw [if_pos rfl]
    refine Ensures.pure ⟨?_, rfl⟩
    rw [Draft.names, hNames]
    rfl
  | branch tag inner blanks =>
    rw [RootTag.text, List.append_assoc, List.append_assoc, Tag.text_append, readRoot]
    refine (ensures_readName_text _ tag.name (tag.endsName false _)).bind fun r hr => ?_
    subst hr
    refine (ensures_readAttributes_text _ _ _ _ _).bind fun r hr => ?_
    obtain ⟨⟨attributes, found⟩, left⟩ := r
    obtain ⟨hNames, rfl, rfl⟩ := hr
    dsimp only
    rw [if_neg (by simp)]
    refine (ensures_readNodes_text inner _ _ _).bind fun r hr => ?_
    rw [hr.2]
    refine (ensures_readClosing_text tag blanks s).bind fun u hu => ?_
    subst hu
    refine Ensures.pure ⟨?_, rfl⟩
    rw [Draft.names, hNames, hr.1]
    rfl

/-- What a document of tags is read as has the names in the tags. -/
theorem names_readRoot (root : RootTag) (s : List Char) :
    Ensures (readRoot (normalized (root.text ++ s))) fun r =>
      r.1.names = root.tags.map Tag.names ∧ r.2 = normalized s := by
  rw [root.normalized_text, ← root.names_normalized]
  exact ensures_readRoot_text root.normalized (normalized s)

end Reading

end SvgBuilder.Markup
