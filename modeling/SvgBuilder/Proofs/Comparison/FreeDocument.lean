import SvgBuilder.Proofs.Builder.AttributeNames
import SvgBuilder.Proofs.Builder.ReadBack
import SvgBuilder.Proofs.Comparison.Closed

/-!
# Documents without the opening of a method

If neither the values of a document nor its namespaces, comments, instructions and texts hold the
opening of a call of the builder method for other attributes, nothing that is generated for its
elements does, but for the calls of that method.  The names of the document do not have to be looked
at: they hold no parenthesis, and what comes into them from behind a closing brace in a namespace
comes from a namespace.

## Main results

* `hasFreeNames_of_isScoped`: names in free namespaces are free.
* `allFree_convertNode`, `allFree_rootItems`: what is generated for free elements is free.
-/

namespace SvgBuilder

open SvgBuilder.Markup SvgBuilder.Text SvgBuilder.Source

/-! ## Free elements -/

/-- Whether a comment or an instruction is free. -/
def Markup.Node.IsFree : Node → Prop
  | .comment s => SvgBuilder.IsFree s.toList
  | .instruction target data => SvgBuilder.IsFree (instructionText target data).toList
  | _ => True

instance (node : Node) : Decidable node.IsFree := by
  unfold Node.IsFree
  split <;> infer_instance

/-- Whether what an element holds directly is free, its names and its child elements not
concerned. -/
structure Markup.Element.IsFree (e : Element) : Prop where
  values : ∀ a ∈ e.attributes, SvgBuilder.IsFree a.value.toList
  spaces : ∀ b ∈ e.bindings, SvgBuilder.IsFree b.uri.toList
  text : SvgBuilder.IsFree e.directText.toList
  asides : ∀ node ∈ e.children, node.IsFree

instance (e : Element) : Decidable e.IsFree :=
  decidable_of_iff ((∀ a ∈ e.attributes, SvgBuilder.IsFree a.value.toList) ∧
    (∀ b ∈ e.bindings, SvgBuilder.IsFree b.uri.toList) ∧ SvgBuilder.IsFree e.directText.toList ∧
      ∀ node ∈ e.children, node.IsFree)
    ⟨fun h => ⟨h.1, h.2.1, h.2.2.1, h.2.2.2⟩, fun h => ⟨h.values, h.spaces, h.text, h.asides⟩⟩

/-- Whether the local names of an element and of its attributes are free. -/
structure Markup.Element.HasFreeNames (e : Element) : Prop where
  name : SvgBuilder.IsFree e.name.localName.toList
  attributes : ∀ a ∈ e.attributes, SvgBuilder.IsFree a.name.localName.toList

/-! ## Free names -/

/-- Whether the bindings of a scope have free namespaces and prefixes as they are read. -/
def HasFreeBindings (scope : Scope) : Prop := ∀ b ∈ scope, IsFree b.uri.toList ∧ b.Named

theorem isFree_reread {name : Name} (hName : IsNameText name.localName.toList)
    (hSpace : ∀ uri, name.space = some uri → IsFree uri.toList) :
    IsFree name.reread.localName.toList := by
  have hLocal := IsFree.of_isNameText hName
  unfold Name.reread
  split
  · exact hLocal
  · next uri hUri =>
    split
    · exact hLocal
    · next brace rest hRest =>
      have hSuffix : rest <:+: uri.toList := by
        have hDrop := List.dropWhile_suffix (l := uri.toList) (· ≠ '\x7d')
        rw [hRest] at hDrop
        exact (List.suffix_cons brace rest).isInfix.trans hDrop.isInfix
      have hFree := (hSpace uri hUri).of_isInfix hSuffix
      simpa using hFree.append_cons hLocal (by decide : '\x7d' ∉ otherOpening)

theorem isFree_space {scope : Scope} (hScope : HasFreeBindings scope) {name : Name}
    (hKnows : scope.Knows name) : ∀ uri, name.space = some uri → IsFree uri.toList := by
  intro uri hUri
  rcases hKnows uri hUri with rfl | ⟨b, hb, rfl⟩
  · decide +kernel
  · exact (hScope b hb).1

theorem HasFreeBindings.enter {own : List Binding} {outer : Scope} (hOwn : HasFreeBindings own)
    (hOuter : HasFreeBindings outer) : HasFreeBindings (Scope.enter own outer) :=
  fun b hb => (mem_of_mem_enter hb).elim (hOwn b) (hOuter b)

theorem isNameText_of_plain {name : Name} (h : name.IsReadBack) (hSpace : name.space = none) :
    IsNameText name.localName.toList := by
  obtain ⟨read, hRead, rfl⟩ := h
  unfold Name.reread at hSpace ⊢
  split at hSpace
  · exact hRead
  · next uri hUri =>
    split at hSpace
    · exact hRead
    · exact nomatch hSpace

/-- Names in free namespaces are free. -/
theorem hasFreeNames_of_isScoped {outer : Scope} {e : Element} (hScoped : e.IsScoped outer)
    (hNamed : e.Named) (hScope : HasFreeBindings (Scope.enter e.bindings outer)) :
    e.HasFreeNames := by
  constructor
  · obtain ⟨name, hKnows, hName, hRead⟩ := hScoped.name
    rw [hRead]
    exact isFree_reread hName (isFree_space hScope hKnows)
  · intro a ha
    obtain ⟨name, hSettles, hRead⟩ := hScoped.attributes.names a ha
    cases hSettles with
    | plain written hWritten =>
      have hPlain : a.name.space = none := by rw [hRead]; rfl
      exact IsFree.of_isNameText (isNameText_of_plain (hNamed.attributes a ha) hPlain)
    | spaced label l uri hl hUri =>
      rw [hRead]
      exact isFree_reread (isNameText_of_isLocalName hl)
        (isFree_space hScope (Scope.knows_of_spaceOf? hUri))

theorem isNameText_labelFor? {scope : Scope} (hScope : ∀ b ∈ scope, b.Named) {uri label : String}
    (h : labelFor? scope uri = some label) : IsNameText label.toList := by
  unfold labelFor? at h
  cases hFound : scope.labelFor? uri with
  | some found =>
    rw [hFound] at h
    obtain rfl := Option.some.inj h
    exact hScope _ (Scope.labelFor?_eq_some hFound).2 found rfl
  | none =>
    rw [hFound] at h
    obtain ⟨space, hSpace, rfl⟩ := Option.map_eq_some_iff.1 h
    have hAll : ∀ space ∈ knownSpaces, space.1.toList.all isNameChar = true := by decide +kernel
    exact List.all_eq_true.1 (hAll space (List.mem_of_find?_eq_some hSpace))

theorem isFree_qualified {scope : Scope} (hScope : HasFreeBindings scope) {name : Name}
    (h : IsFree name.localName.toList) : IsFree (qualified scope name).toList := by
  unfold qualified
  split
  · exact h
  · split
    · next label hLabel =>
      have hFree := IsFree.of_isNameText (isNameText_labelFor? (fun b hb => (hScope b hb).2) hLabel)
      simpa using hFree.append_cons h (by decide : ':' ∉ otherOpening)
    · exact h

theorem isFree_memberName {b : Binding} (h : b.Named) : IsFree b.memberName.toList := by
  have hName : IsFree "xmlns".toList := by decide
  unfold Binding.memberName
  split
  · exact hName
  · next label hLabel =>
    split
    · exact hName
    · have hFree := IsFree.of_isNameText (h label hLabel)
      simpa using hName.append_cons hFree (by decide : '_' ∉ otherOpening)

/-! ## Free statements -/

theorem isFree_convertAttribute (strict : Bool) {name value : String} (hName : IsFree name.toList)
    (hValue : IsFree value.toList) : (convertAttribute strict name value).value.IsFree := by
  have hFixed (fixed : String) (hFixed : IsFree fixed.toList) :
      (Statement.assign fixed value).IsFree := ⟨hFixed, hValue⟩
  rw [convertAttribute, Noted.value_bind]
  cases AttributeRule.find name value with
  | classNames => exact hFixed "cls" (by decide)
  | style => exact ⟨(by decide : IsFree "style".toList), IsFree.read hValue⟩
  | fillReference => exact hFixed "fill" (by decide)
  | namespaced => exact ⟨hName, hValue⟩
  | geometric =>
    rw [AttributeRule.apply, Noted.value_bind]
    split
    · exact ⟨hName, IsFree.listText _⟩
    · exact hFixed name hName
  | identifier => exact hFixed "idAttr" (by decide)
  | stopColor => exact hFixed "stopColor" (by decide)
  | default => exact hFixed name hName

theorem exists_of_mem_attributeMap {scope : Scope} {skipped : List String}
    {attributes : List Attribute} {entry : String × String}
    (h : entry ∈ attributeMap scope skipped attributes) :
    ∃ a ∈ attributes, entry = (qualified scope a.name, a.value) := by
  have hMem := (List.mem_filter.1 (OrderedMap.mem_of_mem_ofPairs h)).1
  obtain ⟨a, ha, rfl⟩ := List.mem_map.1 hMem
  exact ⟨a, ha, rfl⟩

theorem allFree_append {a b : List Item} (ha : AllFree a) (hb : AllFree b) : AllFree (a ++ b) := by
  rw [allFree_iff] at *
  intro item hItem
  exact (List.mem_append.1 hItem).elim (ha item) (hb item)

theorem allFree_ownItems (strict : Bool) (skipped : List String) {outer : Scope} {e : Element}
    (hFree : e.IsFree) (hNames : e.HasFreeNames)
    (hScope : HasFreeBindings (Scope.enter e.bindings outer)) :
    AllFree (ownItems strict skipped outer e).value := by
  rw [value_ownItems]
  refine allFree_append (allFree_iff.2 fun item hItem => ?_) ?_
  · obtain ⟨statement, hStatement, rfl⟩ := List.mem_map.1 hItem
    rcases List.mem_append.1 hStatement with hStatement | hStatement
    · obtain ⟨b, hb, rfl⟩ := List.mem_map.1 hStatement
      obtain ⟨hUri, hNamed⟩ := hScope b (List.mem_filter.1 hb).1
      exact ⟨isFree_memberName hNamed, hUri⟩
    · obtain ⟨entry, hEntry, rfl⟩ := List.mem_map.1 hStatement
      obtain ⟨a, ha, rfl⟩ := exists_of_mem_attributeMap hEntry
      exact isFree_convertAttribute strict (isFree_qualified hScope (hNames.attributes a ha))
        (hFree.values a ha)
  · unfold literalItems
    split
    · exact True.intro
    · exact ⟨hFree.text.trimmed, True.intro⟩

/-! ## Free calls -/

/-- What has to be known of an element and of the scope around it. -/
structure IsFreeWithin (outer : Scope) (e : Element) : Prop where
  element : e.IsFree
  names : e.HasFreeNames
  own : HasFreeBindings e.bindings
  outer : HasFreeBindings outer

theorem IsFreeWithin.scope {outer : Scope} {e : Element} (h : IsFreeWithin outer e) :
    HasFreeBindings (Scope.enter e.bindings outer) := h.own.enter h.outer

theorem Markup.Place.Everywhere.of_mem {P : Scope → Element → Prop} {outer : Scope} {e : Element}
    (h : Place.Everywhere P ⟨outer, e.node⟩) {node : Node} (hNode : node ∈ e.children) :
    Place.Everywhere P ⟨Scope.enter e.bindings outer, node⟩ := by
  cases hText : node.isText with
  | true =>
    refine Place.Everywhere.of_no_element ?_
    cases node with
    | text s => rfl
    | _ => exact nomatch hText
  | false =>
    have hCounted : node ∈ e.node.countedChildren := List.mem_filter.2 ⟨hNode, by simp [hText]⟩
    obtain ⟨index, hIndex⟩ := List.getElem?_of_mem hCounted
    have hChild : Place.child? ⟨outer, e.node⟩ index =
        some ⟨Scope.enter e.bindings outer, node⟩ := by
      rw [Place.child?, hIndex]
      rfl
    exact h.child hChild

mutual

/-- What is generated for free elements is free. -/
theorem allFree_convertNode (strict : Bool) (outer : Scope) : (node : Node) →
    Place.Everywhere IsFreeWithin ⟨outer, node⟩ → node.IsFree →
    AllFree (convertNode strict outer node).value
  | .element name bindings attributes children, h, _ => by
    have hOwn := h [] _ ⟨name, bindings, attributes, children⟩ rfl rfl
    have hChildren := allFree_convertChildren strict (Scope.enter bindings outer) children
      (fun node hNode => h.of_mem (e := ⟨name, bindings, attributes, children⟩) hNode)
      hOwn.element.asides
    have hItems := allFree_append (allFree_ownItems strict [] hOwn.element hOwn.names hOwn.scope)
      hChildren
    rw [convertNode]
    simp only [Noted.value_bind, Noted.value_pure]
    exact ⟨⟨hOwn.names.name, hItems⟩, True.intro⟩
  | .comment s, _, h => by
    rw [convertNode]
    exact ⟨IsFree.lineComment h, True.intro⟩
  | .instruction target data, _, h => by
    rw [convertNode]
    exact ⟨IsFree.lineComment h, True.intro⟩
  | .text _, _, _ => by
    rw [convertNode]
    exact True.intro
  | .reference _, _, _ => by
    rw [convertNode]
    exact True.intro

theorem allFree_convertChildren (strict : Bool) (scope : Scope) : (nodes : List Node) →
    (∀ node ∈ nodes, Place.Everywhere IsFreeWithin ⟨scope, node⟩) →
    (∀ node ∈ nodes, node.IsFree) → AllFree (convertChildren strict scope nodes).value
  | [], _, _ => by
    rw [convertChildren]
    exact True.intro
  | node :: nodes, h, hFree => by
    have hNode := allFree_convertNode strict scope node (h node (List.mem_cons_self ..))
      (hFree node (List.mem_cons_self ..))
    have hNodes := allFree_convertChildren strict scope nodes
      (fun other hOther => h other (List.mem_cons_of_mem _ hOther))
      fun other hOther => hFree other (List.mem_cons_of_mem _ hOther)
    rw [convertChildren]
    simp only [Noted.value_bind, Noted.value_pure]
    exact allFree_append hNode hNodes

end

/-! ## Modules -/

/-- Whether a document is free: its elements, and the texts that are taken for the documentation. -/
structure IsFreeDocument (root : Element) : Prop where
  elements : ∀ e ∈ root.elements, e.IsFree
  title : IsFree (textOfFirst root "title").toList
  description : IsFree (textOfFirst root "desc").toList

instance (root : Element) : Decidable (IsFreeDocument root) :=
  decidable_of_iff ((∀ e ∈ root.elements, e.IsFree) ∧ IsFree (textOfFirst root "title").toList ∧
    IsFree (textOfFirst root "desc").toList)
    ⟨fun h => ⟨h.1, h.2.1, h.2.2⟩, fun h => ⟨h.elements, h.title, h.description⟩⟩

theorem isFreeWithin_of_readDocument {bytes : List UInt8} {root : Element}
    (h : readDocument bytes = .ok root) (hFree : ∀ e ∈ root.elements, e.IsFree) :
    (Place.ofRoot root).Everywhere IsFreeWithin := by
  intro path inner e hInner he
  have hNamed := named_of_readDocument h
  have hWithin := within_of_follow? hInner
  have hMem := hWithin.element he
  have hOwn : HasFreeBindings e.bindings := fun b hb =>
    ⟨(hFree e hMem).spaces b hb, (hNamed e hMem).bindings b hb⟩
  have hOuter : HasFreeBindings inner.outer := by
    intro b hb
    obtain ⟨other, hOther, hBinding⟩ := hWithin.outer b hb
    exact ⟨(hFree other hOther).spaces b hBinding, hWithin.named hNamed b hb⟩
  have hScoped := scoped_of_readDocument h path inner e hInner he
  exact ⟨hFree e hMem, hasFreeNames_of_isScoped hScoped (hNamed e hMem) (hOwn.enter hOuter), hOwn,
    hOuter⟩

theorem isFree_nonEmpty? {e : Element} (h : e.IsFree) {name value : String}
    (hValue : e.nonEmpty? name = some value) : IsFree value.toList := by
  obtain ⟨a, ha, rfl⟩ := Option.map_eq_some_iff.1 (Option.filter_eq_some_iff.1 hValue).1
  exact h.values a (List.mem_of_find?_eq_some ha)

theorem isFree_viewBox {root : Element} (h : root.IsFree) : IsFree (viewBox root).value.toList := by
  unfold viewBox
  split
  · next box hBox => exact (isFree_nonEmpty? h hBox).trimmed
  · split
    · next width height hWidth hHeight =>
      have hOrigin : IsFree "0 0".toList := by decide
      have hBlank : ' ' ∉ otherOpening := by decide
      have hFirst := hOrigin.append_cons (isFree_nonEmpty? h hWidth).trimmed hBlank
      have hBoth := hFirst.append_cons (isFree_nonEmpty? h hHeight).trimmed hBlank
      simpa using hBoth
    · decide

theorem allFree_parameterItems {box : String} (h : IsFree box.toList) :
    AllFree (parameterItems box) := by
  have hFixed {text : String} (hText : IsFree text.toList) : (Item.fixed text).IsFree :=
    hText.isClosed
  refine allFree_append (allFree_append ?_ ?_) ?_
  · exact ⟨hFixed (by decide +kernel), hFixed (by decide +kernel), True.intro⟩
  · unfold viewBoxItems
    split
    · exact True.intro
    · exact ⟨⟨(by decide : IsFree "viewBox".toList), h⟩, True.intro⟩
  · exact ⟨hFixed (by decide +kernel), hFixed (by decide +kernel), True.intro⟩

theorem allFree_rootItems {bytes : List UInt8} {root : Element}
    (h : readDocument bytes = .ok root) (hFree : ∀ e ∈ root.elements, e.IsFree)
    (settings : Settings) : AllFree (rootItems settings root).value := by
  have hWithin := isFreeWithin_of_readDocument h hFree
  have hRoot := hWithin [] _ root rfl rfl
  have hChildren (p : Node → Bool) := allFree_convertChildren settings.strictTransforms
    (Scope.enter root.bindings []) (root.children.filter p)
    (fun node hNode => hWithin.of_mem (List.mem_filter.1 hNode).1)
    fun node hNode => hRoot.element.asides node (List.mem_filter.1 hNode).1
  rw [value_rootItems]
  refine allFree_append (allFree_append (allFree_parameterItems ?_) (hChildren _)) ?_
  · exact isFree_viewBox hRoot.element
  · exact allFree_append (allFree_ownItems _ _ hRoot.element hRoot.names hRoot.scope) (hChildren _)

end SvgBuilder
