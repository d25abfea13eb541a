import SvgBuilder.Proofs.Component.Assembly
import SvgBuilder.Proofs.OrderedMap

/-!
# What the conversion of a document logs

Every element and every attribute that is converted leaves one entry in the log, which begins with
words of its own.  A module is assembled by two walks: one converts the definitions directly
inside the root, the other the root without them and without the attributes that the module
replaces.  This file reads off the log that the two walks share the document between them: each
element is converted once and so is each attribute.

An element announces itself before its children and its attributes after them.  So the entries of
the elements are in document order, while the attributes of an element follow those of all its
descendants (`Node.attributeNames`).

## Main results

* `entries_convertNode_elements`, `entries_convertNode_attributes`: the entries that the walk of a
  subtree leaves.
* `entries_assemble`: the entries that the assembly of a module leaves, behind those that were
  there before.
-/

namespace SvgBuilder

open SvgBuilder.Markup SvgBuilder.Text

/-! ## Entries with an opening -/

/-- Whether an entry begins with an opening. -/
def beginsWith (opening entry : String) : Bool := opening.toList.isPrefixOf entry.toList

/-- The entries of a log that begin with an opening. -/
def entriesWith (opening : String) (log : List String) : List String :=
  log.filter (beginsWith opening)

/-- What announces the conversion of an element. -/
def elementOpening : String := "Converting element: "

/-- What announces the conversion of an attribute. -/
def attributeOpening : String := "Processing attribute: "

@[simp] theorem beginsWith_append (opening rest : String) :
    beginsWith opening (opening ++ rest) = true := by
  simp [beginsWith]

@[simp] theorem entriesWith_nil (opening : String) : entriesWith opening [] = [] := rfl

@[simp] theorem entriesWith_append (opening : String) (a b : List String) :
    entriesWith opening (a ++ b) = entriesWith opening a ++ entriesWith opening b := by
  simp [entriesWith]

theorem entriesWith_cons_of_beginsWith {opening entry : String}
    (h : beginsWith opening entry = true) (log : List String) :
    entriesWith opening (entry :: log) = entry :: entriesWith opening log := by
  simp [entriesWith, h]

theorem entriesWith_cons_of_not {opening entry : String}
    (h : beginsWith opening entry = false) (log : List String) :
    entriesWith opening (entry :: log) = entriesWith opening log := by
  simp [entriesWith, h]

/-- Of two openings, neither of which begins the other, no entry has both. -/
theorem beginsWith_append_eq_false {opening first : String}
    (h₁ : ¬opening.toList <+: first.toList) (h₂ : ¬first.toList <+: opening.toList)
    (rest : String) : beginsWith opening (first ++ rest) = false := by
  rw [beginsWith, String.toList_append, Bool.eq_false_iff, ne_eq, List.isPrefixOf_iff_prefix]
  intro h
  exact (List.prefix_or_prefix_of_prefix h (List.prefix_append _ _)).elim h₁ h₂

/-! ## Conversions that log nothing -/

theorem Style.log_readSegment (segment : List Char) : (readSegment segment).log = [] := by
  unfold readSegment
  split
  · rfl
  · split <;> simp

theorem Style.log_convert (s : String) : (Style.convert s).log = [] := by
  have hSegments := Noted.log_mapM_eq_nil (fun segment => log_readSegment (trim segment))
    (splitAt ';' s.toList)
  simp [Style.convert, Style.read, hSegments]

theorem Transform.log_readNumber (token : List Char) : (readNumber token).log = [] := by
  unfold readNumber
  split <;> simp

theorem Transform.log_readPiece (piece : List Char) : (readPiece piece).log = [] := by
  unfold readPiece
  split
  · simp
  · exact Noted.log_mapM_eq_nil log_readNumber _

theorem Transform.log_readArguments (s : List Char) : (readArguments s).log = [] := by
  simp [readArguments, Noted.log_mapM_eq_nil log_readPiece]

theorem Transform.log_ofCall (strict : Bool) (call : Call) : (ofCall strict call).log = [] := by
  unfold ofCall
  rw [Noted.log_bind, log_readArguments, List.nil_append]
  split
  · rfl
  · dsimp only
    split <;> simp

theorem Transform.log_readList (strict : Bool) (s : String) : (readList strict s).log = [] := by
  simp [readList, Noted.log_mapM_eq_nil (log_ofCall strict)]

/-! ## Entries with other openings -/

/-- The openings of elements and of attributes. -/
def IsOpening (opening : String) : Prop := opening = elementOpening ∨ opening = attributeOpening

/-- What the other entries of a conversion begin with. -/
def otherOpenings : List String := [
  "Processing namespace: ", "Keeping paint server reference: ",
  "Converting geometric attribute: ", "Preserving processing instruction: ",
  "Preserving comment", "Computing viewBox from width and height"]

theorem beginsWith_other {opening : String} (ho : IsOpening opening) (first : String)
    (hf : first ∈ otherOpenings) (rest : String) : beginsWith opening (first ++ rest) = false := by
  have hApart : ∀ first ∈ otherOpenings, ∀ opening ∈ [elementOpening, attributeOpening],
      ¬opening.toList <+: first.toList ∧ ¬first.toList <+: opening.toList := by decide
  have hMem : opening ∈ [elementOpening, attributeOpening] := by simpa [IsOpening] using ho
  obtain ⟨h₁, h₂⟩ := hApart first hf opening hMem
  exact beginsWith_append_eq_false h₁ h₂ rest

/-- The rule of an attribute leaves no entry of an element or an attribute. -/
theorem entriesWith_apply {opening : String} (ho : IsOpening opening) (strict : Bool)
    (name value : String) (rule : AttributeRule) :
    entriesWith opening (rule.apply strict name value).log = [] := by
  cases rule with
  | style => simp [AttributeRule.apply, Style.log_convert]
  | fillReference =>
      have hEntry := beginsWith_other ho "Keeping paint server reference: " (by decide) value
      simp [AttributeRule.apply, entriesWith_cons_of_not hEntry]
  | geometric =>
      have hEntry := beginsWith_other ho "Converting geometric attribute: " (by decide) name
      by_cases hName : name ∈ transformNames
      · simp [AttributeRule.apply, hName, entriesWith_cons_of_not hEntry, Transform.log_readList]
      · simp [AttributeRule.apply, hName, entriesWith_cons_of_not hEntry]
  | _ => simp [AttributeRule.apply]

theorem entriesWith_convertNamespaces {opening : String} (ho : IsOpening opening)
    (own : List Binding) (outer : Scope) :
    entriesWith opening (convertNamespaces own outer).log = [] := by
  unfold convertNamespaces
  induction introduced own outer with
  | nil => simp
  | cons b bindings ih =>
      have hEntry := beginsWith_other ho "Processing namespace: " (by decide) b.memberName
      rw [List.mapM_cons]
      simp only [Noted.log_bind, Noted.log_info, Noted.log_pure, List.append_nil,
        List.singleton_append, entriesWith_cons_of_not hEntry]
      exact ih

theorem entriesWith_viewBox {opening : String} (ho : IsOpening opening) (root : Element) :
    entriesWith opening (viewBox root).log = [] := by
  have hEntry := beginsWith_other ho "Computing viewBox from width and height" (by decide) ""
  unfold viewBox
  split
  · simp
  · split
    · simpa using entriesWith_cons_of_not hEntry []
    · simp

/-! ## What an element logs itself -/

theorem not_beginsWith_attribute (name : String) :
    beginsWith elementOpening (attributeOpening ++ name) = false :=
  beginsWith_append_eq_false (by decide) (by decide) name

theorem not_beginsWith_element (name : String) :
    beginsWith attributeOpening (elementOpening ++ name) = false :=
  beginsWith_append_eq_false (by decide) (by decide) name

/-- An attribute is announced, and what its rule logs has other openings. -/
theorem entriesWith_convertAttribute {opening : String} (ho : IsOpening opening) (strict : Bool)
    (name value : String) :
    entriesWith opening (convertAttribute strict name value).log =
      entriesWith opening [attributeOpening ++ name] := by
  rw [convertAttribute, Noted.log_bind, Noted.log_info, entriesWith_append,
    entriesWith_apply ho, List.append_nil]
  rfl

theorem entriesWith_convertAttributes {opening : String} (ho : IsOpening opening)
    (strict : Bool) (attributes : List (String × String)) :
    entriesWith opening (convertAttributes strict attributes).log =
      entriesWith opening (attributes.map fun a => attributeOpening ++ a.1) := by
  unfold convertAttributes
  induction attributes with
  | nil => rfl
  | cons a attributes ih =>
      have hHead := entriesWith_convertAttribute ho strict a.1 a.2
      rw [List.mapM_cons, Noted.log_bind, entriesWith_append, hHead, Noted.log_bind,
        entriesWith_append, ih, Noted.log_pure, entriesWith_nil, List.append_nil,
        ← entriesWith_append]
      rfl

/-- What an element logs itself are the entries of its attributes. -/
theorem entriesWith_ownItems {opening : String} (ho : IsOpening opening) (strict : Bool)
    (skipped : List String) (outer : Scope) (e : Element) :
    entriesWith opening (ownItems strict skipped outer e).log =
      entriesWith opening ((attributeMap (Scope.enter e.bindings outer) skipped e.attributes).map
        fun a => attributeOpening ++ a.1) := by
  simp only [ownItems, Noted.log_bind, entriesWith_append, Noted.log_pure,
    List.append_nil, entriesWith_convertNamespaces ho, List.nil_append,
    entriesWith_convertAttributes ho]

theorem entriesWith_element_ownItems (strict : Bool) (skipped : List String) (outer : Scope)
    (e : Element) : entriesWith elementOpening (ownItems strict skipped outer e).log = [] := by
  rw [entriesWith_ownItems (.inl rfl), entriesWith, List.filter_eq_nil_iff]
  intro entry hEntry
  obtain ⟨a, -, rfl⟩ := List.mem_map.1 hEntry
  simp [not_beginsWith_attribute]

theorem entriesWith_attribute_ownItems (strict : Bool) (skipped : List String) (outer : Scope)
    (e : Element) :
    entriesWith attributeOpening (ownItems strict skipped outer e).log =
      (attributeMap (Scope.enter e.bindings outer) skipped e.attributes).map
        fun a => attributeOpening ++ a.1 := by
  rw [entriesWith_ownItems (.inr rfl), entriesWith, List.filter_eq_self]
  intro entry hEntry
  obtain ⟨a, -, rfl⟩ := List.mem_map.1 hEntry
  exact beginsWith_append ..

/-! ## What the walk of a subtree logs -/

namespace Markup

mutual

/-- The names of all attributes of a subtree: those of an element behind those of all its
descendants. -/
def Node.attributeNames (outer : Scope) : Node → List String
  | .element _ bindings attributes children =>
    Node.attributeNamesOf (Scope.enter bindings outer) children ++
      (attributeMap (Scope.enter bindings outer) [] attributes).map (·.1)
  | _ => []

/-- The names of all attributes of some subtrees. -/
def Node.attributeNamesOf (scope : Scope) : List Node → List String
  | [] => []
  | node :: nodes => Node.attributeNames scope node ++ Node.attributeNamesOf scope nodes

end

theorem Node.attributeNamesOf_eq_flatMap (scope : Scope) (nodes : List Node) :
    Node.attributeNamesOf scope nodes = nodes.flatMap (Node.attributeNames scope) := by
  induction nodes with
  | nil => simp [Node.attributeNamesOf]
  | cons node nodes ih => simp [Node.attributeNamesOf, ih]

end Markup

/-- An element announces itself, then come its children and then what it logs itself. -/
theorem entriesWith_convertNode_element {opening : String} (strict : Bool) (outer : Scope)
    (name : Name) (bindings : List Binding) (attributes : List Attribute)
    (children : List Node) :
    entriesWith opening
        (convertNode strict outer (.element name bindings attributes children)).log =
      entriesWith opening [elementOpening ++ name.localName] ++
        (entriesWith opening
            (convertChildren strict (Scope.enter bindings outer) children).log ++
          entriesWith opening
            (ownItems strict [] outer ⟨name, bindings, attributes, children⟩).log) := by
  rw [convertNode]
  simp only [Noted.log_bind, Noted.log_info, Noted.log_pure, List.append_nil, entriesWith_append]
  rfl

/-- Comments, instructions, texts and references leave no entry of an element or an attribute. -/
theorem entriesWith_convertNode_other {opening : String} (ho : IsOpening opening) (strict : Bool)
    (outer : Scope) {node : Node} (hn : node.element? = none) :
    entriesWith opening (convertNode strict outer node).log = [] := by
  cases node with
  | element => simp [Node.element?] at hn
  | text => simp [convertNode]
  | reference => simp [convertNode]
  | comment s =>
      have hEntry := beginsWith_other ho "Preserving comment" (by decide) ""
      simpa [convertNode] using entriesWith_cons_of_not hEntry []
  | instruction target data =>
      have hEntry := beginsWith_other ho "Preserving processing instruction: " (by decide) target
      simpa [convertNode] using entriesWith_cons_of_not hEntry []

theorem entriesWith_convertChildren_cons {opening : String} (strict : Bool) (scope : Scope)
    (node : Node) (nodes : List Node) :
    entriesWith opening (convertChildren strict scope (node :: nodes)).log =
      entriesWith opening (convertNode strict scope node).log ++
        entriesWith opening (convertChildren strict scope nodes).log := by
  simp [convertChildren_cons]

mutual

/-- The elements of a subtree are announced in document order, each of them once. -/
theorem entries_convertNode_elements (strict : Bool) (outer : Scope) : (node : Node) →
    entriesWith elementOpening (convertNode strict outer node).log =
      node.elements.map fun e => elementOpening ++ e.name.localName
  | .element name bindings attributes children => by
      have hChildren :=
        entries_convertChildren_elements strict (Scope.enter bindings outer) children
      rw [entriesWith_convertNode_element, hChildren, entriesWith_element_ownItems,
        entriesWith_cons_of_beginsWith (beginsWith_append ..)]
      simp [Node.elements]
  | .text _ => entriesWith_convertNode_other (.inl rfl) strict outer rfl
  | .comment _ => entriesWith_convertNode_other (.inl rfl) strict outer rfl
  | .instruction _ _ => entriesWith_convertNode_other (.inl rfl) strict outer rfl
  | .reference _ => entriesWith_convertNode_other (.inl rfl) strict outer rfl

theorem entries_convertChildren_elements (strict : Bool) (scope : Scope) : (nodes : List Node) →
    entriesWith elementOpening (convertChildren strict scope nodes).log =
      (Node.elementsOf nodes).map fun e => elementOpening ++ e.name.localName
  | [] => by simp [convertChildren_nil, Node.elementsOf]
  | node :: nodes => by
      have hNode := entries_convertNode_elements strict scope node
      have hNodes := entries_convertChildren_elements strict scope nodes
      rw [entriesWith_convertChildren_cons, hNode, hNodes, Node.elementsOf, List.map_append]

end

mutual

/-- The attributes of a subtree are announced, each of them once, behind those of all the
descendants of their element. -/
theorem entries_convertNode_attributes (strict : Bool) (outer : Scope) : (node : Node) →
    entriesWith attributeOpening (convertNode strict outer node).log =
      (node.attributeNames outer).map (attributeOpening ++ ·)
  | .element name bindings attributes children => by
      have hChildren :=
        entries_convertChildren_attributes strict (Scope.enter bindings outer) children
      rw [entriesWith_convertNode_element, hChildren, entriesWith_attribute_ownItems,
        entriesWith_cons_of_not (not_beginsWith_element _)]
      simp [Node.attributeNames]
  | .text _ => entriesWith_convertNode_other (.inr rfl) strict outer rfl
  | .comment _ => entriesWith_convertNode_other (.inr rfl) strict outer rfl
  | .instruction _ _ => entriesWith_convertNode_other (.inr rfl) strict outer rfl
  | .reference _ => entriesWith_convertNode_other (.inr rfl) strict outer rfl

theorem entries_convertChildren_attributes (strict : Bool) (scope : Scope) :
    (nodes : List Node) →
    entriesWith attributeOpening (convertChildren strict scope nodes).log =
      (Node.attributeNamesOf scope nodes).map (attributeOpening ++ ·)
  | [] => by simp [convertChildren_nil, Node.attributeNamesOf]
  | node :: nodes => by
      have hNode := entries_convertNode_attributes strict scope node
      have hNodes := entries_convertChildren_attributes strict scope nodes
      rw [entriesWith_convertChildren_cons, hNode, hNodes, Node.attributeNamesOf,
        List.map_append]

end

/-! ## What the assembly of a module logs -/

/-- The children of the root that are converted first. -/
def Markup.Element.definitionChildren (root : Element) : List Node :=
  root.children.filter isDefinitions

/-- The children of the root that are converted with it. -/
def Markup.Element.otherChildren (root : Element) : List Node :=
  root.children.filter (!isDefinitions ·)

theorem attributeMap_eq_filter (scope : Scope) (skipped : List String)
    (attributes : List Attribute) :
    attributeMap scope skipped attributes =
      (attributeMap scope [] attributes).filter fun a => a.1 ∉ skipped := by
  unfold attributeMap
  rw [← OrderedMap.ofPairs_filter (fun key => decide (key ∉ skipped))]
  simp

/-- No element is converted twice, and none is left out. -/
theorem elements_perm (root : Element) :
    (root.definitionChildren.flatMap Node.elements ++
      root :: root.otherChildren.flatMap Node.elements).Perm root.elements := by
  have hChildren := (List.filter_append_perm isDefinitions root.children).flatMap_right
    Node.elements
  rw [List.flatMap_append, ← Node.elementsOf_eq_flatMap root.children] at hChildren
  exact List.perm_middle.trans (hChildren.cons root)

theorem log_rootItems (settings : Settings) (root : Element) :
    (rootItems settings root).log = (viewBox root).log ++
      ((convertChildren settings.strictTransforms (Scope.enter root.bindings [])
          root.definitionChildren).log ++
        ([elementOpening ++ root.name.localName] ++
          ((convertChildren settings.strictTransforms (Scope.enter root.bindings [])
              root.otherChildren).log ++
            (ownItems settings.strictTransforms parameterAttributes [] root).log))) := by
  simp only [rootItems, definitions, convertContent, Noted.log_bind, Noted.log_info,
    Noted.log_pure, List.append_nil, keeps_rootOmission]
  rfl

/-- Assembling a module keeps the log that is there and converts every element and every
attribute once: first the definitions directly inside the root with all that is in them, then the
root and its other children.  The attributes that the module replaces are left out. -/
theorem entries_assemble (settings : Settings) (moduleName sourceName : String) (root : Element)
    (context : Noted Unit) :
    ∃ added,
      (context >>= fun _ => assemble settings moduleName sourceName root).log =
        context.log ++ added ∧
      entriesWith elementOpening added =
        (root.definitionChildren.flatMap Node.elements ++
          root :: root.otherChildren.flatMap Node.elements).map
            (fun e => elementOpening ++ e.name.localName) ∧
      (root.definitionChildren.flatMap Node.elements ++
        root :: root.otherChildren.flatMap Node.elements).Perm root.elements ∧
      entriesWith attributeOpening added =
        (root.definitionChildren.flatMap (Node.attributeNames (Scope.enter root.bindings [])) ++
          root.otherChildren.flatMap (Node.attributeNames (Scope.enter root.bindings [])) ++
          ((attributeMap (Scope.enter root.bindings []) [] root.attributes).map (·.1)).filter
            (· ∉ parameterAttributes)).map (attributeOpening ++ ·) := by
  have hLog : (assemble settings moduleName sourceName root).log =
      (rootItems settings root).log := by
    simp [assemble]
  refine ⟨(rootItems settings root).log, ?_, ?_, elements_perm root, ?_⟩
  · rw [Noted.log_bind, hLog]
  · simp only [log_rootItems, entriesWith_append, entriesWith_viewBox (.inl rfl),
      entries_convertChildren_elements, entriesWith_element_ownItems,
      entriesWith_cons_of_beginsWith (beginsWith_append ..), Node.elementsOf_eq_flatMap,
      List.nil_append, List.append_nil, List.map_append, List.map_cons, List.singleton_append]
  · simp only [log_rootItems, entriesWith_append, entriesWith_viewBox (.inr rfl),
      entries_convertChildren_attributes, entriesWith_attribute_ownItems,
      entriesWith_cons_of_not (not_beginsWith_element _), entriesWith_nil,
      Node.attributeNamesOf_eq_flatMap, attributeMap_eq_filter _ parameterAttributes,
      List.nil_append, List.map_append, List.append_assoc, List.filter_map, List.map_map]
    rfl

end SvgBuilder
