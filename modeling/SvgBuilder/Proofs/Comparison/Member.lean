import SvgBuilder.Proofs.Builder.ReadBack
import SvgBuilder.Proofs.Comparison.Reach
import SvgBuilder.Proofs.Text.Line

/-!
# Members that are found

A statement is found by the member that it assigns to: a named member if its name is one of the
builder, another attribute if its name stands in the module as it is, so that nothing of it is
escaped and no line ends in it.  The statement of an attribute may have a member with another name,
but as soon as the names of members are put back, it is the name of the attribute again.

## Main results

* `mem_findings_member`: a statement at the beginning of a line is found.
* `isFindable_convertAttribute`: what is found of the statement of an attribute.
* `normalizedName_idem`: names that have been put back stay as they are.
-/

namespace SvgBuilder

open SvgBuilder.Markup SvgBuilder.Text SvgBuilder.Source SvgBuilder.Comparison

/-! ## Names as they are -/

/-- Whether a text stands in a module as it is: nothing of it is escaped, and no line ends in it. -/
def IsVerbatim (s : List Char) : Prop :=
  ∀ c ∈ s, Literal.encodeChar c = [c] ∧ isLineBreak c = false

instance (s : List Char) : Decidable (IsVerbatim s) := List.decidableBAll _ _

theorem IsVerbatim.encode {s : List Char} (h : IsVerbatim s) : Literal.encode s = s := by
  induction s with
  | nil => rfl
  | cons c s ih =>
    have hRest := ih fun d hd => h d (List.mem_cons_of_mem _ hd)
    rw [Literal.encode] at hRest ⊢
    rw [List.flatMap_cons, (h c (by simp)).1, hRest, List.singleton_append]

theorem IsVerbatim.not_mem {s : List Char} (h : IsVerbatim s) : '\x22' ∉ s :=
  fun hMem => absurd (h _ hMem).1 (by decide)

theorem isVerbatim_of_isNameText {s : List Char} (h : IsNameText s) : IsVerbatim s := by
  intro c hc
  have hPlain := isPlain_of_isNameChar (h c hc)
  have hEscape : c ≠ '\\' := by
    rintro rfl
    exact absurd (h _ hc) (by decide)
  simp only [isPlain, isSpace, Bool.and_eq_true, decide_eq_true_eq, ne_eq, Bool.not_eq_true',
    Bool.or_eq_false_iff, decide_eq_false_iff_not] at hPlain
  simp [Literal.encodeChar, hEscape, hPlain]

theorem not_isLineBreak_of_isMemberName {name : List Char} (h : isMemberName name = true) :
    ∀ c ∈ name, isLineBreak c = false := by
  intro c hc
  exact not_isLineBreak_of_not_isBlank
    (not_isBlank_of_isAttributeChar (isAttributeChar_of_isMemberName h c hc))

theorem not_mem_colon_of_isMemberName {name : List Char} (h : isMemberName name = true) :
    ':' ∉ name := by
  cases name with
  | nil => exact nomatch h
  | cons c name =>
    obtain ⟨hc, hName⟩ := Bool.and_eq_true_iff.1 h
    intro hMem
    rcases List.mem_cons.1 hMem with rfl | hMem
    · exact absurd hc (by decide)
    · exact absurd (List.all_eq_true.1 hName _ hMem) (by decide)

/-! ## Names that are put back -/

theorem normalizedName_of_behind {name : String} {rest : List Char}
    (h : behind? "xmlns_" name.toList = some rest) :
    normalizedName name = "xmlns:" ++ String.ofList rest := by
  rw [normalizedName, h]

theorem normalizedName_of_none {name : String} (h : behind? "xmlns_" name.toList = none) :
    normalizedName name = (memberAliases.lookup name).getD name := by
  rw [normalizedName, h]

theorem normalizedName_label (label : String) :
    normalizedName ("xmlns:" ++ label) = "xmlns:" ++ label := by
  have hNone : behind? "xmlns_" ("xmlns:" ++ label).toList = none := by
    rw [String.toList_append]
    rfl
  have hLookup : memberAliases.lookup ("xmlns:" ++ label) = none := by
    have hColon : ∀ entry ∈ memberAliases, ':' ∉ entry.1.toList := by decide
    refine List.lookup_eq_none_iff.2 fun entry hEntry => bne_iff_ne.2 fun hSame => ?_
    exact hColon entry hEntry (by simp [← hSame])
  rw [normalizedName_of_none hNone, hLookup]
  rfl

/-- Names that have been put back stay as they are. -/
theorem normalizedName_idem (name : String) :
    normalizedName (normalizedName name) = normalizedName name := by
  cases hLabel : behind? "xmlns_" name.toList with
  | some rest => rw [normalizedName_of_behind hLabel, normalizedName_label]
  | none =>
    cases hAlias : memberAliases.lookup name with
    | none =>
      have hSame : normalizedName name = name := by
        rw [normalizedName_of_none hLabel, hAlias]
        rfl
      rw [hSame, hSame]
    | some other =>
      have hAll : ∀ entry ∈ memberAliases, normalizedName entry.2 = entry.2 := by decide
      obtain ⟨before, behind, hTable, -⟩ := List.lookup_eq_some_iff.1 hAlias
      have hEntry : (name, other) ∈ memberAliases := by simp [hTable]
      rw [normalizedName_of_none hLabel, hAlias]
      exact hAll _ hEntry

/-! ## Members -/

/-- What a statement for a member begins with. -/
def Member.opening : Member → List Char
  | .named name => "svg.".toList ++ name.toList ++ " :=".toList
  | .attribute name => "svg.".toList ++ (quotedOpening ++ (name.toList ++ ['\x22']))

/-- Whether a member is found by its name. -/
def Member.IsFindable : Member → Prop
  | .named name => isMemberName name.toList = true
  | .attribute name => name ≠ "" ∧ IsVerbatim name.toList

theorem begins_statement {s : Statement} (h : s.member.IsFindable) :
    Begins s.member.opening s.render.toList := by
  obtain ⟨member, value⟩ := s
  match member, h with
  | .named name, _ =>
    have hText : (Statement.mk (.named name) value).render.toList =
        (Member.named name).opening ++ ' ' :: value.render.toList := by
      simp [Statement.render, Member.render, Member.opening]
    rw [hText]
    exact Begins.head _ _
  | .attribute name, h =>
    have hOpening : "svg.svgAttr(".toList ++ ['\x22'] = "svg.".toList ++ quotedOpening := by decide
    have hQuote : (Literal.quote name).toList = ['\x22'] ++ (name.toList ++ ['\x22']) := by
      simp [Literal.quote, h.2.encode]
    have hText : (Statement.mk (.attribute name) value).render.toList =
        "svg.svgAttr(".toList ++ ['\x22'] ++ (name.toList ++ ['\x22']) ++
          (", StringAsIsCodec, None)".toList ++ " := ".toList ++ value.render.toList) := by
      simp only [Statement.render, Member.render, String.toList_append, hQuote, List.append_assoc]
    rw [hText, hOpening, List.append_assoc "svg.".toList]
    exact Begins.head _ _

theorem not_isLineBreak_opening {member : Member} (h : member.IsFindable) :
    ∀ c ∈ member.opening, isLineBreak c = false := by
  match member, h with
  | .named name, h =>
    refine List.forall_mem_append.2 ⟨List.forall_mem_append.2 ⟨?_, ?_⟩, ?_⟩
    · exact not_isLineBreak_of_all (by decide)
    · exact not_isLineBreak_of_isMemberName h
    · exact not_isLineBreak_of_all (by decide)
  | .attribute name, h =>
    have hName (c : Char) (hc : c ∈ name.toList) : isLineBreak c = false := (h.2 c hc).2
    refine List.forall_mem_append.2 ⟨?_, List.forall_mem_append.2 ⟨?_, ?_⟩⟩
    · exact not_isLineBreak_of_all (by decide)
    · exact not_isLineBreak_of_all (by decide)
    · exact List.forall_mem_append.2 ⟨hName, not_isLineBreak_of_all (by decide)⟩

/-- A statement at the beginning of a line is found. -/
theorem mem_findings_member {member : Member} (h : member.IsFindable) {s : List Char}
    (hClosed : IsClosed s) (hBegins : Begins member.opening s) (rest : List Char) :
    member.name.toList ∈ findings attributePattern (s ++ rest) := by
  match member, h with
  | .named name, h => exact mem_findings_statement h hClosed hBegins rest
  | .attribute name, h =>
    have hNil : name.toList ≠ [] := fun hEmpty => h.1 (String.toList_eq_nil_iff.1 hEmpty)
    exact mem_findings_other hNil h.2.not_mem hClosed hBegins rest

/-- The only name of an attribute that takes a rule, if there is only one. -/
def AttributeRule.only? : AttributeRule → Option String
  | .classNames => some "class"
  | .style => some "style"
  | .fillReference => some "fill"
  | .identifier => some "id"
  | .stopColor => some "stop-color"
  | .namespaced | .geometric | .default => none

theorem AttributeRule.eq_of_find {name value only : String}
    (h : (AttributeRule.find name value).only? = some only) : name = only := by
  unfold AttributeRule.find at h
  split_ifs at h <;> simp_all [AttributeRule.only?]

/-- The statement of an attribute is found by a name that is put back to that of the attribute. -/
theorem isFindable_convertAttribute (strict : Bool) {name : String} (value : String)
    (h : isMemberName name.toList = true ∨ ':' ∈ name.toList ∧ IsVerbatim name.toList) :
    (convertAttribute strict name value).value.member.IsFindable ∧
      normalizedName (convertAttribute strict name value).value.member.name =
        normalizedName name := by
  have hOnly {only : String} (hRule : (AttributeRule.find name value).only? = some only) :
      name = only := AttributeRule.eq_of_find hRule
  have hOwn (hRule : AttributeRule.find name value ≠ .namespaced) :
      isMemberName name.toList = true :=
    h.resolve_right fun hColon => hRule (AttributeRule.find_eq_namespaced_iff.2 hColon.1)
  rw [convertAttribute, Noted.value_bind]
  cases hRule : AttributeRule.find name value with
  | classNames =>
    obtain rfl := hOnly (by rw [hRule]; rfl)
    exact ⟨(by decide : isMemberName "cls".toList = true),
      (by decide : normalizedName "cls" = normalizedName "class")⟩
  | style =>
    obtain rfl := hOnly (by rw [hRule]; rfl)
    exact ⟨(by decide : isMemberName "style".toList = true), rfl⟩
  | fillReference =>
    obtain rfl := hOnly (by rw [hRule]; rfl)
    exact ⟨(by decide : isMemberName "fill".toList = true), rfl⟩
  | namespaced =>
    have hColon := AttributeRule.find_eq_namespaced_iff.1 hRule
    have hVerbatim := (h.resolve_left fun hName => not_mem_colon_of_isMemberName hName hColon).2
    refine ⟨⟨?_, hVerbatim⟩, rfl⟩
    rintro rfl
    exact absurd hColon (by decide)
  | geometric =>
    have hName := hOwn (by simp [hRule])
    rw [AttributeRule.apply, Noted.value_bind]
    split
    · exact ⟨hName, rfl⟩
    · exact ⟨hName, rfl⟩
  | identifier =>
    obtain rfl := hOnly (by rw [hRule]; rfl)
    exact ⟨(by decide : isMemberName "idAttr".toList = true),
      (by decide : normalizedName "idAttr" = normalizedName "id")⟩
  | stopColor =>
    obtain rfl := hOnly (by rw [hRule]; rfl)
    exact ⟨(by decide : isMemberName "stopColor".toList = true),
      (by decide : normalizedName "stopColor" = normalizedName "stop-color")⟩
  | default => exact ⟨hOwn (by simp [hRule]), rfl⟩

/-- The attribute that declares a binding. -/
def Markup.Binding.attributeName (b : Binding) : String :=
  match b.label with
  | none => "xmlns"
  | some label => "xmlns:" ++ label

/-- Whether a binding has no prefix, or one that a name of a member may go on with. -/
def Markup.Binding.HasMemberLabel (b : Binding) : Prop :=
  ∀ label, b.label = some label → label ≠ "" ∧ label.toList.all isMemberChar = true

/-- The statement of a binding is found by a name that is put back to that of the declaration. -/
theorem isFindable_bindingStatement {b : Binding} (h : b.HasMemberLabel) :
    (bindingStatement b).member.IsFindable ∧
      normalizedName (bindingStatement b).member.name = b.attributeName := by
  obtain ⟨label?, uri⟩ := b
  cases label? with
  | none =>
    exact ⟨(by decide : isMemberName "xmlns".toList = true),
      (by decide : normalizedName "xmlns" = "xmlns")⟩
  | some label =>
    obtain ⟨hNil, hLabel⟩ := h label rfl
    have hMember : Binding.memberName ⟨some label, uri⟩ = "xmlns_" ++ label := if_neg hNil
    have hBehind : behind? "xmlns_" ("xmlns_" ++ label).toList = some label.toList :=
      behind?_eq_some_iff.2 (String.toList_append ..)
    simp only [bindingStatement, hMember, Member.IsFindable, Member.name, Binding.attributeName]
    constructor
    · have hText : "xmlns_".toList ++ label.toList = 'x' :: ("mlns_".toList ++ label.toList) := rfl
      have hRest : "mlns_".toList.all isMemberChar = true := by decide
      rw [String.toList_append, hText, isMemberName, isNameOf, List.all_append, hLabel, hRest]
      rfl
    · rw [normalizedName_of_behind hBehind, String.ofList_toList]

end SvgBuilder
