import SvgBuilder.Proofs.Builder.Rendering
import SvgBuilder.Proofs.Component.Assembly
import SvgBuilder.Proofs.Markup.Names
import SvgBuilder.Proofs.OrderedMap

/-!
# Reading modules back

What is generated for an element is read back as one call of the method of its local name, with the
statements of its namespaces, the statements of its attributes, its text and the calls of its
children as arguments.  `nodeArgument?` says so in terms of the document, and `rootArguments` does
for the root of a module.  The values of the literals are those of the document as indentation
leaves them.

Only names can get in the way.  A local name that comes from behind a closing brace in a namespace
may hold any character.

## Main results

* `allReadable_convertNode`, `argumentsOf_convertNode`: what is converted is readable and stands
  for the arguments of the document.
* `reads_back`: documents without closing braces in local names are read back.
-/

namespace SvgBuilder

open SvgBuilder.Markup SvgBuilder.Text SvgBuilder.Source

/-! ## The arguments of a document -/

/-- The argument of an attribute. -/
def attributeArgument (strict : Bool) (entry : String × String) : Argument :=
  (convertAttribute strict entry.1 entry.2).value.argument

/-- The argument of a text, unless it is empty. -/
def textArguments (s : String) : List Argument := if s = "" then [] else [[.literal s.toList]]

/-- The arguments that an element has ahead of those of its children. -/
def ownArguments (strict : Bool) (skipped : List String) (outer : Scope) (e : Element) :
    List Argument :=
  (introduced e.bindings outer).map (fun b => (bindingStatement b).argument) ++
    (attributeMap (Scope.enter e.bindings outer) skipped e.attributes).map
      (attributeArgument strict) ++
    textArguments e.trimmedText

/-- A call with arguments that stand further in. -/
def callArgument (label : String) (margin : String) (arguments : List Argument) : Argument :=
  [.word ("svg." ++ label).toList, .group (mapArguments (reindented margin.toList) arguments)]

mutual

/-- The argument of an element.  Other nodes have none. -/
def nodeArgument? (strict : Bool) (outer : Scope) : Node → Option Argument
  | .element name bindings attributes children =>
    some (callArgument name.localName itemMargin
      (ownArguments strict [] outer ⟨name, bindings, attributes, children⟩ ++
        nodeArguments strict (Scope.enter bindings outer) children))
  | .text _ => none
  | .comment _ => none
  | .instruction _ _ => none
  | .reference _ => none

/-- The arguments of the elements among some nodes. -/
def nodeArguments (strict : Bool) (scope : Scope) : List Node → List Argument
  | [] => []
  | node :: nodes => (nodeArgument? strict scope node).toList ++ nodeArguments strict scope nodes

end

/-- The arguments of the root that depend on the parameters of the module. -/
def parameterArguments (box : String) : List Argument :=
  [[.word "svg.width".toList, .word ":=".toList, .word "size.toString".toList],
    [.word "svg.height".toList, .word ":=".toList, .word "size.toString".toList]] ++
    (if box = "" then []
      else [[.word "svg.viewBox".toList, .word ":=".toList, .literal box.toList]]) ++
    [[.word "className.map".toList,
        .group [[.word "svg.cls".toList, .word ":=".toList, .word "_".toList]],
        .word ".toSeq".toList],
      [.word "customAttributes".toList]]

/-- The arguments of the root: its definitions come before what it states itself. -/
def rootArguments (settings : Settings) (root : Element) : List Argument :=
  let strict := settings.strictTransforms
  let scope := Scope.enter root.bindings []
  parameterArguments (viewBox root).value ++
    nodeArguments strict scope (root.children.filter isDefinitions) ++
    (ownArguments strict parameterAttributes [] root ++
      nodeArguments strict scope (root.children.filter rootOmission.keeps))

/-! ## What elements become -/

theorem value_ownItems (strict : Bool) (skipped : List String) (outer : Scope) (e : Element) :
    (ownItems strict skipped outer e).value =
      ((introduced e.bindings outer).map bindingStatement ++
        (attributeMap (Scope.enter e.bindings outer) skipped e.attributes).map
          fun a => (convertAttribute strict a.1 a.2).value).map Item.statement ++
        literalItems e.trimmedText := by
  simp only [ownItems, Noted.value_bind, Noted.value_pure, convertNamespaces, convertAttributes,
    Noted.value_mapM]

theorem value_convertChildren (strict : Bool) (scope : Scope) (nodes : List Node) :
    (convertChildren strict scope nodes).value =
      nodes.flatMap fun node => (convertNode strict scope node).value := by
  induction nodes with
  | nil => rw [convertChildren_nil]; rfl
  | cons node nodes ih => rw [convertChildren_cons, Noted.value_bind, Noted.value_bind,
      Noted.value_pure, ih, List.flatMap_cons]

theorem value_convertNode_element (strict : Bool) (outer : Scope) (e : Element) :
    (convertNode strict outer e.node).value =
      [.call e.name.localName ((ownItems strict [] outer e).value ++
        (convertChildren strict (Scope.enter e.bindings outer) e.children).value)] := by
  rw [Element.node, convertNode]
  simp only [Noted.value_bind, Noted.value_pure]

theorem argumentsOf_statements (statements : List Statement) :
    argumentsOf (statements.map Item.statement) = statements.map Statement.argument := by
  induction statements with
  | nil => simp [argumentsOf]
  | cons statement statements ih => simp [argumentsOf, Item.argument?, ih]

theorem argumentsOf_literalItems (s : String) : argumentsOf (literalItems s) = textArguments s := by
  unfold literalItems textArguments
  split <;> simp [argumentsOf, Item.argument?]

theorem argumentsOf_ownItems (strict : Bool) (skipped : List String) (outer : Scope)
    (e : Element) :
    argumentsOf (ownItems strict skipped outer e).value = ownArguments strict skipped outer e := by
  rw [value_ownItems, argumentsOf_append, argumentsOf_statements, argumentsOf_literalItems,
    List.map_append, List.map_map, List.map_map]
  rfl

mutual

theorem argumentsOf_convertNode (strict : Bool) (outer : Scope) : (node : Node) →
    argumentsOf (convertNode strict outer node).value = (nodeArgument? strict outer node).toList
  | .element name bindings attributes children => by
      have hChildren := argumentsOf_convertChildren strict (Scope.enter bindings outer) children
      rw [convertNode, nodeArgument?]
      simp only [Noted.value_bind, Noted.value_pure, argumentsOf, Item.argument?,
        argumentsOf_append, argumentsOf_ownItems, hChildren]
      rfl
  | .comment _ => by rw [convertNode, nodeArgument?]; rfl
  | .instruction _ _ => by rw [convertNode, nodeArgument?]; rfl
  | .text _ => by rw [convertNode, nodeArgument?]; rfl
  | .reference _ => by rw [convertNode, nodeArgument?]; rfl

theorem argumentsOf_convertChildren (strict : Bool) (scope : Scope) : (nodes : List Node) →
    argumentsOf (convertChildren strict scope nodes).value = nodeArguments strict scope nodes
  | [] => by rw [convertChildren, nodeArguments]; rfl
  | node :: nodes => by
      have hNode := argumentsOf_convertNode strict scope node
      have hNodes := argumentsOf_convertChildren strict scope nodes
      rw [convertChildren, nodeArguments, Noted.value_bind, Noted.value_bind, Noted.value_pure,
        argumentsOf_append, hNode, hNodes]

end

theorem argumentsOf_viewBoxItems (box : String) :
    argumentsOf (viewBoxItems box) =
      if box = "" then []
      else [[.word "svg.viewBox".toList, .word ":=".toList, .literal box.toList]] := by
  unfold viewBoxItems
  split
  · simp [argumentsOf]
  · simp [argumentsOf, Item.argument?, Statement.argument, Statement.assign, Member.parts,
      Assigned.parts]

/-! ## Fixed arguments -/

theorem readsAs_width : ReadsAs "svg.width := size.toString"
    [.word "svg.width".toList, .word ":=".toList, .word "size.toString".toList] :=
  ⟨_, ⟨[.word "svg.width".toList, .word ":=".toList], "size.toString".toList, by decide, rfl⟩,
    rfl, by simp, fun _ => (forms_word _).append ((forms_word _).append (forms_word _))⟩

theorem readsAs_height : ReadsAs "svg.height := size.toString"
    [.word "svg.height".toList, .word ":=".toList, .word "size.toString".toList] :=
  ⟨_, ⟨[.word "svg.height".toList, .word ":=".toList], "size.toString".toList, by decide, rfl⟩,
    rfl, by simp, fun _ => (forms_word _).append ((forms_word _).append (forms_word _))⟩

theorem readsAs_className : ReadsAs "className.map(svg.cls := _).toSeq"
    [.word "className.map".toList,
      .group [[.word "svg.cls".toList, .word ":=".toList, .word "_".toList]],
      .word ".toSeq".toList] := by
  have hInner := (forms_word "svg.cls".toList).append
    ((forms_word ":=".toList).append (forms_word "_".toList))
  exact ⟨_, ⟨[.word "className.map".toList, .opening, .word "svg.cls".toList, .word ":=".toList,
      .word "_".toList, .closing], ".toSeq".toList, by decide, rfl⟩, rfl, by simp, fun _ =>
    (forms_word _).append (((hInner.last (by simp)).group).append (forms_word _))⟩

theorem readsAs_customAttributes :
    ReadsAs "customAttributes" [.word "customAttributes".toList] :=
  ⟨_, ⟨[], "customAttributes".toList, by decide, rfl⟩, rfl, by simp, fun _ => forms_word _⟩

/-! ## Readable documents -/

/-- Whether the names of an element are words. -/
structure IsReadableElement (e : Element) : Prop where
  name : IsWordText e.name.localName
  attributes : ∀ a ∈ e.attributes, IsWordText a.name.localName
  bindings : ∀ b ∈ e.bindings, IsWordText b.memberName

theorem isPlain_of_isNameChar {c : Char} (h : isNameChar c = true) : isPlain c = true :=
  isPlain_of_codes (by decide) h

theorem isWordText_of_isNameText {s : String} (h : IsNameText s.toList) : IsWordText s :=
  fun c hc => isPlain_of_isNameChar (h c hc)

theorem isWordText_memberName {b : Binding} (h : b.Named) : IsWordText b.memberName := by
  unfold Binding.memberName
  split
  · decide
  · next label hSome =>
      split
      · decide
      · exact isWordText_append (by decide) (isWordText_of_isNameText (h label hSome))

theorem readable_convertAttribute (strict : Bool) {name : String} (value : String)
    (h : ':' ∉ name.toList → IsWordText name) :
    (convertAttribute strict name value).value.member.Readable := by
  have hFixed (fixed : String) (hf : IsWordText fixed) (value : String) :
      (Statement.assign fixed value).member.Readable := hf
  have hOwn (hRule : AttributeRule.find name value ≠ .namespaced) (value : String) :
      (Statement.assign name value).member.Readable :=
    h (mt AttributeRule.find_eq_namespaced_iff.2 hRule)
  rw [convertAttribute, Noted.value_bind]
  cases hRule : AttributeRule.find name value with
  | classNames => exact hFixed "cls" (by decide) value
  | style => exact hFixed "style" (by decide) value
  | fillReference => exact hFixed "fill" (by decide) value
  | namespaced => exact True.intro
  | geometric =>
      have hNamed := hOwn (by simp [hRule])
      rw [AttributeRule.apply, Noted.value_bind]
      split
      · exact hNamed _
      · exact hNamed _
  | identifier => exact hFixed "idAttr" (by decide) value
  | stopColor => exact hFixed "stopColor" (by decide) value
  | default => exact hOwn (by simp [hRule]) value

theorem isWordText_of_mem_attributeMap {scope : Scope} {skipped : List String}
    {attributes : List Attribute} (h : ∀ a ∈ attributes, IsWordText a.name.localName)
    {entry : String × String} (he : entry ∈ attributeMap scope skipped attributes)
    (hc : ':' ∉ entry.1.toList) : IsWordText entry.1 := by
  have hMem := (List.mem_filter.1 (OrderedMap.mem_of_mem_ofPairs he)).1
  obtain ⟨a, ha, rfl⟩ := List.mem_map.1 hMem
  dsimp only at hc ⊢
  unfold qualified at hc ⊢
  split
  · exact h a ha
  · split
    · next hSpace _ label hLabel => simp [hSpace, hLabel] at hc
    · exact h a ha

theorem allReadable_append {a b : List Item} (ha : AllReadable a) (hb : AllReadable b) :
    AllReadable (a ++ b) := by
  rw [allReadable_iff] at *
  intro item hItem
  exact (List.mem_append.1 hItem).elim (ha item) (hb item)

theorem allReadable_ownItems (strict : Bool) (skipped : List String) {outer : Scope} {e : Element}
    (he : IsReadableElement e) (ho : ∀ b ∈ outer, IsWordText b.memberName) :
    AllReadable (ownItems strict skipped outer e).value := by
  rw [value_ownItems]
  refine allReadable_append (allReadable_iff.2 fun item hItem => ?_) ?_
  · obtain ⟨statement, hStatement, rfl⟩ := List.mem_map.1 hItem
    rcases List.mem_append.1 hStatement with hStatement | hStatement
    · obtain ⟨b, hb, rfl⟩ := List.mem_map.1 hStatement
      exact (mem_of_mem_enter (List.mem_filter.1 hb).1).elim (he.bindings b) (ho b)
    · obtain ⟨entry, hEntry, rfl⟩ := List.mem_map.1 hStatement
      exact readable_convertAttribute strict entry.2
        (isWordText_of_mem_attributeMap he.attributes hEntry)
  · unfold literalItems
    split
    · exact True.intro
    · exact ⟨True.intro, True.intro⟩

theorem memberName_enter {own : List Binding} {outer : Scope}
    (h : ∀ b ∈ own, IsWordText b.memberName) (ho : ∀ b ∈ outer, IsWordText b.memberName) :
    ∀ b ∈ Scope.enter own outer, IsWordText b.memberName :=
  fun b hb => (mem_of_mem_enter hb).elim (h b) (ho b)

mutual

/-- The names of a subtree and around it are all that has to be readable. -/
theorem allReadable_convertNode (strict : Bool) (outer : Scope)
    (ho : ∀ b ∈ outer, IsWordText b.memberName) : (node : Node) →
    (∀ e ∈ node.elements, IsReadableElement e) → AllReadable (convertNode strict outer node).value
  | .element name bindings attributes children, h => by
      rw [Node.elements] at h
      have hOwn := h _ (List.mem_cons_self ..)
      have hScope := memberName_enter hOwn.bindings ho
      have hChildren := allReadable_convertChildren strict _ hScope children fun e he =>
        h e (List.mem_cons_of_mem _ he)
      rw [convertNode]
      simp only [Noted.value_bind, Noted.value_pure]
      exact ⟨⟨hOwn.name, allReadable_append (allReadable_ownItems strict [] hOwn ho) hChildren⟩,
        True.intro⟩
  | .comment s, _ => by
      rw [convertNode]
      exact ⟨⟨s, rfl⟩, True.intro⟩
  | .instruction target data, _ => by
      rw [convertNode]
      exact ⟨⟨instructionText target data, rfl⟩, True.intro⟩
  | .text _, _ => by
      rw [convertNode]
      exact True.intro
  | .reference _, _ => by
      rw [convertNode]
      exact True.intro

theorem allReadable_convertChildren (strict : Bool) (scope : Scope)
    (hs : ∀ b ∈ scope, IsWordText b.memberName) : (nodes : List Node) →
    (∀ e ∈ Node.elementsOf nodes, IsReadableElement e) →
    AllReadable (convertChildren strict scope nodes).value
  | [], _ => by
      rw [convertChildren]
      exact True.intro
  | node :: nodes, h => by
      rw [Node.elementsOf] at h
      have hNode := allReadable_convertNode strict scope hs node fun e he =>
        h e (List.mem_append_left _ he)
      have hNodes := allReadable_convertChildren strict scope hs nodes fun e he =>
        h e (List.mem_append_right _ he)
      rw [convertChildren]
      simp only [Noted.value_bind, Noted.value_pure]
      exact allReadable_append hNode hNodes

end

/-! ## Modules -/

theorem elementsOf_filter_subset (p : Node → Bool) (nodes : List Node) :
    ∀ e ∈ Node.elementsOf (nodes.filter p), e ∈ Node.elementsOf nodes := by
  intro e he
  rw [Node.elementsOf_eq_flatMap] at he ⊢
  obtain ⟨node, hNode, hMem⟩ := List.mem_flatMap.1 he
  exact List.mem_flatMap.2 ⟨node, (List.mem_filter.1 hNode).1, hMem⟩

theorem value_rootItems (settings : Settings) (root : Element) :
    (rootItems settings root).value =
      parameterItems (viewBox root).value ++
        (convertChildren settings.strictTransforms (Scope.enter root.bindings [])
          (root.children.filter isDefinitions)).value ++
        ((ownItems settings.strictTransforms parameterAttributes [] root).value ++
          (convertChildren settings.strictTransforms (Scope.enter root.bindings [])
            (root.children.filter rootOmission.keeps)).value) := rfl

theorem allReadable_parameterItems (box : String) : AllReadable (parameterItems box) := by
  refine allReadable_append (allReadable_append ?_ ?_) ?_
  · exact ⟨⟨_, readsAs_width⟩, ⟨_, readsAs_height⟩, True.intro⟩
  · unfold viewBoxItems
    split
    · exact True.intro
    · exact ⟨(by decide : IsWordText "viewBox"), True.intro⟩
  · exact ⟨⟨_, readsAs_className⟩, ⟨_, readsAs_customAttributes⟩, True.intro⟩

theorem argumentsOf_parameterItems (box : String) :
    argumentsOf (parameterItems box) = parameterArguments box := by
  rw [parameterItems, parameterArguments, argumentsOf_append, argumentsOf_append,
    argumentsOf_viewBoxItems]
  simp only [argumentsOf, readsAs_width.argument?_eq, readsAs_height.argument?_eq,
    readsAs_className.argument?_eq, readsAs_customAttributes.argument?_eq]
  rfl

theorem argumentsOf_rootItems (settings : Settings) (root : Element) :
    argumentsOf (rootItems settings root).value = rootArguments settings root := by
  rw [value_rootItems, rootArguments, argumentsOf_append, argumentsOf_append, argumentsOf_append,
    argumentsOf_parameterItems, argumentsOf_ownItems, argumentsOf_convertChildren,
    argumentsOf_convertChildren]

theorem allReadable_rootItems (settings : Settings) {root : Element}
    (h : ∀ e ∈ root.elements, IsReadableElement e) :
    AllReadable (rootItems settings root).value := by
  have hRoot := h root (List.mem_cons_self ..)
  have hScope := memberName_enter hRoot.bindings (List.forall_mem_nil _)
  have hChildren (p : Node → Bool) := allReadable_convertChildren settings.strictTransforms _ hScope
    (root.children.filter p) fun e he =>
      h e (List.mem_cons_of_mem _ (elementsOf_filter_subset p root.children e he))
  rw [value_rootItems]
  refine allReadable_append (allReadable_append (allReadable_parameterItems _) (hChildren _)) ?_
  exact allReadable_append (allReadable_ownItems _ _ hRoot (by simp)) (hChildren _)

theorem read?_rootCall (settings : Settings) {root : Element}
    (h : ∀ e ∈ root.elements, IsReadableElement e) :
    read? (rootCall (rootItems settings root).value) =
      some [callArgument "svg" argumentMargin (rootArguments settings root)] := by
  have hCall := read?_call argumentMargin "    " (by decide : IsWordText "svg") (by decide)
    (by decide) (allReadable_rootItems settings h)
  have hText : rootCall (rootItems settings root).value =
      "svg." ++ "svg" ++ "(\n" ++ indented argumentMargin
        (Item.content (rootItems settings root).value) ++ "\n" ++ "    " ++ ")" := by
    have hOpening : "svg.svg(\n" = "svg." ++ "svg" ++ "(\n" := by decide
    have hClosing : "\n    )" = "\n" ++ "    " ++ ")" := by decide
    rw [rootCall, hOpening, hClosing]
    simp only [String.append_assoc]
  rw [hText, hCall, argumentsOf_rootItems]
  rfl

/-! ## Reading back -/

/-- Whether the local names of an element and of its attributes are names. -/
structure Markup.Element.HasNames (e : Element) : Prop where
  name : IsNameText e.name.localName.toList
  attributes : ∀ a ∈ e.attributes, IsNameText a.name.localName.toList

/-- Whether no local name of an element comes from behind a closing brace in a namespace. -/
structure Markup.Element.IsUnbroken (e : Element) : Prop where
  name : '\x7d' ∉ e.name.localName.toList
  attributes : ∀ a ∈ e.attributes, '\x7d' ∉ a.name.localName.toList

instance (e : Element) : Decidable e.IsUnbroken :=
  decidable_of_iff ('\x7d' ∉ e.name.localName.toList ∧
    ∀ a ∈ e.attributes, '\x7d' ∉ a.name.localName.toList)
    ⟨fun h => ⟨h.1, h.2⟩, fun h => ⟨h.name, h.attributes⟩⟩

theorem hasNames_iff_isUnbroken {e : Element} (h : e.Named) : e.HasNames ↔ e.IsUnbroken := by
  constructor
  · intro hn
    exact ⟨not_mem_of_isNameText hn.name, fun a ha =>
      not_mem_of_isNameText (hn.attributes a ha)⟩
  · intro hu
    exact ⟨h.name.isNameText hu.name, fun a ha =>
      (h.attributes a ha).isNameText (hu.attributes a ha)⟩

theorem isReadableElement_of_isUnbroken {e : Element} (h : e.Named) (hu : e.IsUnbroken) :
    IsReadableElement e :=
  have hn := (hasNames_iff_isUnbroken h).2 hu
  ⟨isWordText_of_isNameText hn.name, fun a ha => isWordText_of_isNameText (hn.attributes a ha),
    fun b hb => isWordText_memberName (h.bindings b hb)⟩

/-- What is generated for a node is read back as the calls that it stands for, under local names
that are names, exactly if no local name comes from behind a closing brace.  The same is true of
the call of the root in its module. -/
theorem reads_back {bytes : List UInt8} {root : Element} (h : readDocument bytes = .ok root) :
    (∀ strict path place, (Place.ofRoot root).follow? path = some place →
      ((∀ e ∈ place.node.elements, e.IsUnbroken) ↔
        (∀ e ∈ place.node.elements, e.HasNames) ∧
        read? (Item.content (convertNode strict place.outer place.node).value) =
          some (nodeArgument? strict place.outer place.node).toList)) ∧
    ∀ settings moduleName sourceName,
      ((∀ e ∈ root.elements, e.IsUnbroken) ↔
        (∀ e ∈ root.elements, e.HasNames) ∧
        ∃ call, (assemble settings moduleName sourceName root).value =
            opening settings moduleName sourceName root ++ call ++ closing settings root ∧
          read? call =
            some [callArgument "svg" argumentMargin (rootArguments settings root)]) := by
  have hNamed := named_of_readDocument h
  constructor
  · intro strict path place hPlace
    have hWithin := within_of_follow? hPlace
    have hOuter (b : Binding) (hb : b ∈ place.outer) : IsWordText b.memberName := by
      obtain ⟨e, he, hMem⟩ := hWithin.outer b hb
      exact isWordText_memberName ((hNamed e he).bindings b hMem)
    have hInner (e : Element) (he : e ∈ place.node.elements) := hNamed e (hWithin.node e he)
    constructor
    · intro hUnbroken
      have hReadable := allReadable_convertNode strict place.outer hOuter place.node fun e he =>
        isReadableElement_of_isUnbroken (hInner e he) (hUnbroken e he)
      refine ⟨fun e he => (hasNames_iff_isUnbroken (hInner e he)).2 (hUnbroken e he), ?_⟩
      rw [read?_content hReadable, argumentsOf_convertNode]
    · intro hRead e he
      exact (hasNames_iff_isUnbroken (hInner e he)).1 (hRead.1 e he)
  · intro settings moduleName sourceName
    constructor
    · intro hUnbroken
      have hCall := read?_rootCall settings fun e he =>
        isReadableElement_of_isUnbroken (hNamed e he) (hUnbroken e he)
      exact ⟨fun e he => (hasNames_iff_isUnbroken (hNamed e he)).2 (hUnbroken e he),
        _, value_assemble settings moduleName sourceName root, hCall⟩
    · intro hRead e he
      exact (hasNames_iff_isUnbroken (hNamed e he)).1 (hRead.1 e he)

/-- A document with an attribute, a text and an element inside the root. -/
theorem reads_back_document : ∃ root, readString "<a x='1'>t<b/></a>" = .ok root ∧
    (∀ e ∈ root.elements, e.IsUnbroken) ∧
    read? (Item.content (convertNode false [] root.node).value) =
      some (nodeArgument? false [] root.node).toList := by
  obtain ⟨root, hRoot, hAll⟩ := exists_of_readsWith (by decide +kernel :
    readsWith (fun root => decide (∀ e ∈ root.elements, e.IsUnbroken)) "<a x='1'>t<b/></a>" = true)
  have hUnbroken := of_decide_eq_true hAll
  have hBack := (reads_back hRoot).1 false [] (Place.ofRoot root) rfl
  rw [Place.ofRoot, elements_of_element? (Node.element?_node root)] at hBack
  exact ⟨root, hRoot, hUnbroken, (hBack.1 hUnbroken).2⟩

end SvgBuilder
