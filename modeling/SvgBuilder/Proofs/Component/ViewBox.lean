import SvgBuilder.Proofs.Builder.Errors
import SvgBuilder.Proofs.Builder.ReadBack

/-!
# View boxes that can be used

A view box can be used if more than blanks is left of it, and so can a width and a height.  The
module of a document sets the view box that is found for its root, unless it is empty, and nothing
else in its arguments does: the attributes of the root that the parameters replace are left out, and
what stands deeper is in calls of its own.

Blanks are cut off behind the question whether an attribute is there at all.  So a view box of
blanks is taken, nothing is left of it, and that is not reported.

## Main results

* `boxWarning_mem_viewBox_iff`, `value_viewBox_eq_empty_iff`: when a missing view box is reported,
  and when there is none.
* `statement_mem_rootItems_iff`: a module sets the view box that is found, and no other.
* `viewBox_usable_or_reported`: the view box is usable or reported, but for attributes of blanks.
-/

namespace SvgBuilder

open SvgBuilder.Markup SvgBuilder.Text

/-! ## Attributes of blanks -/

/-- What is left of an attribute without the blanks at its ends, if anything is. -/
def Markup.Element.filled? (e : Element) (name : String) : Option String :=
  ((e.attribute? name).map trimmed).filter (· ≠ "")

/-- Whether an attribute is there, but only with blanks. -/
def Markup.Element.IsBlankAt (e : Element) (name : String) : Prop :=
  (e.nonEmpty? name).isSome ∧ e.filled? name = none

/-- The view box of a document by what is left of its attributes. -/
def boxOf (root : Element) : String :=
  match root.filled? "viewBox", root.filled? "width", root.filled? "height" with
  | some box, _, _ => box
  | none, some width, some height => "0 0 " ++ width ++ " " ++ height
  | none, _, _ => ""

/-- The documents in which an attribute of blanks stands for a view box, or for a part of one. -/
inductive Markup.Element.MissesBox (root : Element) : Prop
  /-- A view box of blanks hides a size. -/
  | hidden (hBox : root.IsBlankAt "viewBox") (hWidth : (root.filled? "width").isSome)
    (hHeight : (root.filled? "height").isSome)
  /-- A side of blanks is a part of the view box. -/
  | halved (hBox : root.nonEmpty? "viewBox" = none) (hWidth : (root.nonEmpty? "width").isSome)
    (hHeight : (root.nonEmpty? "height").isSome)
    (hBlank : root.IsBlankAt "width" ∨ root.IsBlankAt "height")

section Attributes

variable {e : Element} {name value : String}

theorem filled?_of_nonEmpty?_eq_none (h : e.nonEmpty? name = none) : e.filled? name = none := by
  unfold Element.nonEmpty? at h
  unfold Element.filled?
  cases hValue : e.attribute? name with
  | none => rfl
  | some value =>
    rw [hValue] at h
    have hEmpty : value = "" := by simpa using h
    rw [hEmpty]
    rfl

theorem filled?_of_nonEmpty? (h : e.nonEmpty? name = some value) :
    e.filled? name = if trimmed value = "" then none else some (trimmed value) := by
  obtain ⟨hValue, -⟩ := Option.filter_eq_some_iff.1 h
  rw [Element.filled?, hValue, Option.map_some, Option.filter_some]
  simp

theorem not_isBlankAt_of_nonEmpty?_eq_none (h : e.nonEmpty? name = none) :
    ¬e.IsBlankAt name := by
  rintro ⟨hSome, -⟩
  rw [h] at hSome
  cases hSome

theorem isBlankAt_iff (h : e.nonEmpty? name = some value) : e.IsBlankAt name ↔ trimmed value = "" := by
  rw [Element.IsBlankAt, h, filled?_of_nonEmpty? h]
  simp

end Attributes

/-! ## The view box of a document -/

/-- The ways to find a view box. -/
theorem viewBox_cases (root : Element) :
    (∃ box, root.nonEmpty? "viewBox" = some box ∧ viewBox root = ⟨trimmed box, []⟩) ∨
    (∃ width height, root.nonEmpty? "viewBox" = none ∧ root.nonEmpty? "width" = some width ∧
      root.nonEmpty? "height" = some height ∧
      viewBox root = ⟨"0 0 " ++ trimmed width ++ " " ++ trimmed height,
        [⟨.info, "Computing viewBox from width and height"⟩]⟩) ∨
    (root.nonEmpty? "viewBox" = none ∧
      (root.nonEmpty? "width" = none ∨ root.nonEmpty? "height" = none) ∧
      viewBox root = ⟨"", [boxWarning]⟩) := by
  cases hBox : root.nonEmpty? "viewBox" with
  | some box => exact .inl ⟨box, rfl, viewBox_of_attribute hBox⟩
  | none =>
    right
    rw [viewBox, hBox]
    cases hWidth : root.nonEmpty? "width" with
    | none => exact .inr ⟨rfl, .inl rfl, rfl⟩
    | some width =>
      cases hHeight : root.nonEmpty? "height" with
      | none => exact .inr ⟨rfl, .inr rfl, rfl⟩
      | some height => exact .inl ⟨width, height, rfl, rfl, rfl, rfl⟩

theorem size_ne_empty (width height : String) : "0 0 " ++ width ++ " " ++ height ≠ "" := by
  intro h
  have hNil := congrArg String.toList h
  simp at hNil

/-- A missing view box is reported if the root has none and not both sides of one. -/
theorem boxWarning_mem_viewBox_iff (root : Element) :
    boxWarning ∈ (viewBox root).notes ↔ root.nonEmpty? "viewBox" = none ∧
      (root.nonEmpty? "width" = none ∨ root.nonEmpty? "height" = none) := by
  obtain ⟨box, hBox, h⟩ | ⟨width, height, -, hWidth, hHeight, h⟩ | ⟨hBox, hSize, h⟩ :=
    viewBox_cases root
  · rw [h, hBox]
    simp
  · rw [h, hWidth, hHeight]
    simp [boxWarning]
  · rw [h]
    exact iff_of_true List.mem_cons_self ⟨hBox, hSize⟩

/-- There is no view box if that is reported or if the one of the root has only blanks. -/
theorem value_viewBox_eq_empty_iff (root : Element) :
    (viewBox root).value = "" ↔
      root.IsBlankAt "viewBox" ∨ boxWarning ∈ (viewBox root).notes := by
  obtain ⟨box, hBox, h⟩ | ⟨width, height, hBox, -, -, h⟩ | ⟨-, -, h⟩ := viewBox_cases root
  · rw [h, isBlankAt_iff hBox]
    simp
  · rw [h]
    refine iff_of_false (size_ne_empty _ _) ?_
    rintro (hBlank | hWarning)
    · exact not_isBlankAt_of_nonEmpty?_eq_none hBox hBlank
    · simp [boxWarning] at hWarning
  · rw [h]
    exact iff_of_true rfl (.inr List.mem_cons_self)

/-- A missing view box is reported exactly if there is none, unless that of the root has only
blanks. -/
theorem reported_iff_missing_iff (root : Element) :
    (boxWarning ∈ (viewBox root).notes ↔ (viewBox root).value = "") ↔
      ¬root.IsBlankAt "viewBox" := by
  rw [value_viewBox_eq_empty_iff]
  constructor
  · intro h hBlank
    have hNone := ((boxWarning_mem_viewBox_iff root).1 (h.2 (.inl hBlank))).1
    exact not_isBlankAt_of_nonEmpty?_eq_none hNone hBlank
  · intro hFilled
    exact ⟨.inr, fun h => h.resolve_left hFilled⟩

/-- Where the view box of the root is left, it is taken as such. -/
theorem value_eq_boxOf_of_box {root : Element} {box : String}
    (hBox : root.nonEmpty? "viewBox" = some box) (hLeft : trimmed box ≠ "") :
    trimmed box = boxOf root ∧ ¬root.MissesBox := by
  constructor
  · rw [boxOf, filled?_of_nonEmpty? hBox, if_neg hLeft]
  · rintro (⟨hBlank, -, -⟩ | ⟨hNone, -, -, -⟩)
    · exact hLeft ((isBlankAt_iff hBox).1 hBlank)
    · rw [hBox] at hNone
      cases hNone

/-- Where nothing is left of the view box of the root, its size is missed if it has one. -/
theorem empty_eq_boxOf_iff_of_box {root : Element} (hBlank : root.IsBlankAt "viewBox") :
    "" = boxOf root ↔ ¬root.MissesBox := by
  rw [boxOf, hBlank.2]
  have hSome : ¬root.nonEmpty? "viewBox" = none := Option.isSome_iff_ne_none.1 hBlank.1
  cases hWidth : root.filled? "width" with
  | none =>
    refine iff_of_true rfl ?_
    rintro (⟨-, hFilled, -⟩ | ⟨hNone, -, -, -⟩)
    · rw [hWidth] at hFilled
      cases hFilled
    · exact hSome hNone
  | some width =>
    cases hHeight : root.filled? "height" with
    | none =>
      refine iff_of_true rfl ?_
      rintro (⟨-, -, hFilled⟩ | ⟨hNone, -, -, -⟩)
      · rw [hHeight] at hFilled
        cases hFilled
      · exact hSome hNone
    | some height =>
      refine iff_of_false (size_ne_empty width height).symm fun hMissed => hMissed ?_
      exact .hidden hBlank (by rw [hWidth]; rfl) (by rw [hHeight]; rfl)

/-- Where the root has no view box and both sides of one, both must have more than blanks. -/
theorem size_eq_boxOf_iff {root : Element} {width height : String}
    (hBox : root.nonEmpty? "viewBox" = none) (hWidth : root.nonEmpty? "width" = some width)
    (hHeight : root.nonEmpty? "height" = some height) :
    "0 0 " ++ trimmed width ++ " " ++ trimmed height = boxOf root ↔ ¬root.MissesBox := by
  have hSides : root.MissesBox ↔ trimmed width = "" ∨ trimmed height = "" := by
    rw [← isBlankAt_iff hWidth, ← isBlankAt_iff hHeight]
    constructor
    · rintro (⟨hBlank, -, -⟩ | ⟨-, -, -, hSides⟩)
      · exact absurd hBlank (not_isBlankAt_of_nonEmpty?_eq_none hBox)
      · exact hSides
    · exact .halved hBox (by rw [hWidth]; rfl) (by rw [hHeight]; rfl)
  rw [hSides, boxOf, filled?_of_nonEmpty?_eq_none hBox, filled?_of_nonEmpty? hWidth,
    filled?_of_nonEmpty? hHeight]
  by_cases hEmptyWidth : trimmed width = ""
  · rw [if_pos hEmptyWidth]
    exact iff_of_false (size_ne_empty _ _) fun h => h (.inl hEmptyWidth)
  · by_cases hEmptyHeight : trimmed height = ""
    · rw [if_neg hEmptyWidth, if_pos hEmptyHeight]
      exact iff_of_false (size_ne_empty _ _) fun h => h (.inr hEmptyHeight)
    · rw [if_neg hEmptyWidth, if_neg hEmptyHeight]
      exact iff_of_true rfl fun h => h.elim hEmptyWidth hEmptyHeight

/-- The view box that is found is that of what is left of the attributes, unless one of blanks
stands for it. -/
theorem value_viewBox_eq_boxOf_iff (root : Element) :
    (viewBox root).value = boxOf root ↔ ¬root.MissesBox := by
  obtain ⟨box, hBox, h⟩ | ⟨width, height, hBox, hWidth, hHeight, h⟩ | ⟨hBox, hSize, h⟩ :=
    viewBox_cases root
  · rw [h]
    by_cases hLeft : trimmed box = ""
    · rw [hLeft]
      exact empty_eq_boxOf_iff_of_box ((isBlankAt_iff hBox).2 hLeft)
    · obtain ⟨hSame, hFound⟩ := value_eq_boxOf_of_box hBox hLeft
      exact iff_of_true hSame hFound
  · rw [h]
    exact size_eq_boxOf_iff hBox hWidth hHeight
  · have hNone : boxOf root = "" := by
      rw [boxOf, filled?_of_nonEmpty?_eq_none hBox]
      rcases hSize with hNone | hNone
      · rw [filled?_of_nonEmpty?_eq_none hNone]
      · rw [filled?_of_nonEmpty?_eq_none hNone]
        cases root.filled? "width" <;> rfl
    rw [h, hNone]
    refine iff_of_true rfl ?_
    rintro (⟨hBlank, -, -⟩ | ⟨-, hWidth, hHeight, -⟩)
    · exact not_isBlankAt_of_nonEmpty?_eq_none hBox hBlank
    · rcases hSize with hNone | hNone
      · rw [hNone] at hWidth
        cases hWidth
      · rw [hNone] at hHeight
        cases hHeight

/-! ## The view box of a module -/

/-- What stands deeper in a document becomes calls and comments. -/
theorem statement_not_mem_convertNode (strict : Bool) (outer : Scope) (node : Node)
    (statement : Statement) : .statement statement ∉ (convertNode strict outer node).value := by
  cases node with
  | element name bindings attributes children =>
    have hCall := value_convertNode_element strict outer ⟨name, bindings, attributes, children⟩
    rw [Element.node] at hCall
    rw [hCall]
    simp
  | comment s => simp [convertNode]
  | instruction target data => simp [convertNode]
  | text s => simp [convertNode]
  | reference name => simp [convertNode]

theorem statement_not_mem_convertChildren (strict : Bool) (scope : Scope) (nodes : List Node)
    (statement : Statement) :
    .statement statement ∉ (convertChildren strict scope nodes).value := by
  rw [value_convertChildren]
  intro h
  obtain ⟨node, -, hMem⟩ := List.mem_flatMap.1 h
  exact statement_not_mem_convertNode strict scope node statement hMem

/-- Only an attribute of that name is written as the view box. -/
theorem eq_viewBox_of_convertAttribute {strict : Bool} {name value : String}
    (h : (convertAttribute strict name value).value.member = .named "viewBox") :
    name = "viewBox" := by
  rw [convertAttribute, Noted.value_bind] at h
  cases hRule : AttributeRule.find name value with
  | geometric =>
    rw [hRule, AttributeRule.apply, Noted.value_bind] at h
    split at h
    · exact Member.named.inj h
    · exact Member.named.inj h
  | default =>
    rw [hRule] at h
    exact Member.named.inj h
  | _ =>
    rw [hRule] at h
    exact absurd h (by simp [AttributeRule.apply, Statement.assign, Style.convert])

theorem memberName_ne_viewBox (b : Binding) : b.memberName ≠ "viewBox" := by
  have hOpening (label : String) : "xmlns_" ++ label ≠ "viewBox" := by
    intro h
    have hFirst := congrArg (fun s => s.toList.head?) h
    simp at hFirst
  unfold Binding.memberName
  split
  · decide
  · split
    · decide
    · exact hOpening _

/-- What the root states itself does not set the view box. -/
theorem viewBox_not_mem_ownItems (strict : Bool) (outer : Scope) (e : Element) (value : String) :
    .statement (.assign "viewBox" value) ∉ (ownItems strict parameterAttributes outer e).value := by
  rw [value_ownItems]
  intro h
  rcases List.mem_append.1 h with h | h
  · obtain ⟨statement, hStatement, hItem⟩ := List.mem_map.1 h
    have hMember : statement.member = .named "viewBox" := by rw [Item.statement.inj hItem]; rfl
    rcases List.mem_append.1 hStatement with hBinding | hAttribute
    · obtain ⟨b, -, rfl⟩ := List.mem_map.1 hBinding
      exact memberName_ne_viewBox b (Member.named.inj hMember)
    · obtain ⟨⟨name, text⟩, hEntry, rfl⟩ := List.mem_map.1 hAttribute
      have hKept := (List.mem_filter.1 (OrderedMap.mem_of_mem_ofPairs hEntry)).2
      obtain rfl := eq_viewBox_of_convertAttribute hMember
      exact absurd hKept (by simp [parameterAttributes])
  · unfold literalItems at h
    split at h <;> simp at h

/-- A module sets the view box that is found for its root, unless it is empty, and no other. -/
theorem statement_mem_rootItems_iff (settings : Settings) (root : Element) (value : String) :
    .statement (.assign "viewBox" value) ∈ (rootItems settings root).value ↔
      value = (viewBox root).value ∧ value ≠ "" := by
  have hDefinitions := statement_not_mem_convertChildren settings.strictTransforms
    (Scope.enter root.bindings []) (root.children.filter isDefinitions) (.assign "viewBox" value)
  have hChildren := statement_not_mem_convertChildren settings.strictTransforms
    (Scope.enter root.bindings []) (root.children.filter rootOmission.keeps)
    (.assign "viewBox" value)
  have hOwn := viewBox_not_mem_ownItems settings.strictTransforms [] root value
  rw [value_rootItems, List.mem_append, List.mem_append, List.mem_append]
  simp only [hDefinitions, hChildren, hOwn, or_false, parameterItems, viewBoxItems]
  split
  · next hEmpty =>
    rw [hEmpty]
    simp
  · next hBox =>
    have hSame : Statement.assign "viewBox" value = .assign "viewBox" (viewBox root).value ↔
        value = (viewBox root).value := by simp [Statement.assign]
    simp only [List.mem_append, List.mem_cons, List.not_mem_nil, reduceCtorEq, or_false, false_or,
      Item.statement.injEq, hSame]
    exact ⟨fun h => ⟨h, h ▸ hBox⟩, And.left⟩

/-- A module does not set a view box if none is found. -/
theorem forall_statement_not_mem_rootItems_iff (settings : Settings) (root : Element) :
    (∀ value, .statement (.assign "viewBox" value) ∉ (rootItems settings root).value) ↔
      (viewBox root).value = "" := by
  simp only [statement_mem_rootItems_iff]
  constructor
  · intro h
    by_contra hBox
    exact h _ ⟨rfl, hBox⟩
  · rintro hNone value ⟨rfl, hBox⟩
    exact hBox hNone

/-- The view box is usable or reported, but for attributes of blanks.  The view box that is found is
that of what is left of the attributes, unless one of blanks stands for it; that there is none is
reported, unless that of the root has only blanks; and so are the modules that do not set one. -/
theorem viewBox_usable_or_reported (settings : Settings) (moduleName sourceName : String)
    (root : Element) :
    ((viewBox root).value = boxOf root ↔ ¬root.MissesBox) ∧
    ((boxWarning ∈ (viewBox root).notes ↔ (viewBox root).value = "") ↔
      ¬root.IsBlankAt "viewBox") ∧
    (assemble settings moduleName sourceName root).value =
      opening settings moduleName sourceName root ++ rootCall (rootItems settings root).value ++
        closing settings root ∧
    (∀ value, .statement (.assign "viewBox" value) ∈ (rootItems settings root).value ↔
      value = (viewBox root).value ∧ value ≠ "") ∧
    ((boxWarning ∈ (assemble settings moduleName sourceName root).notes ↔
      ∀ value, .statement (.assign "viewBox" value) ∉ (rootItems settings root).value) ↔
      ¬root.IsBlankAt "viewBox") := by
  refine ⟨value_viewBox_eq_boxOf_iff root, reported_iff_missing_iff root, value_assemble ..,
    statement_mem_rootItems_iff settings root, ?_⟩
  rw [boxWarning_mem_assemble_iff, forall_statement_not_mem_rootItems_iff]
  exact reported_iff_missing_iff root

/-- A root with a view box of blanks and no size. -/
def blankBoxRoot : Element := ⟨⟨none, "svg"⟩, [], [⟨⟨none, "viewBox"⟩, " "⟩], []⟩

example : viewBox blankBoxRoot = ⟨"", []⟩ ∧ blankBoxRoot.IsBlankAt "viewBox" :=
  ⟨rfl, by decide, by decide⟩

end SvgBuilder
