import SvgBuilder.Proofs.Comparison.Front
import SvgBuilder.Proofs.Comparison.Member

/-!
# What is generated is recognised

A module is compared with its document by what the patterns find in it, so they should find
whatever is generated: every element, every attribute and every declaration of a namespace.  The
arguments of all calls begin lines of the module, however deep an element stands, and there the
patterns find them.

## Main results

* `Shows.follow`: what is shown for an element inside is shown for the elements around it.
* `shows_ownItems`, `shows_call`: what an element states, and its call, are shown among the
  arguments of the root.
* `module_recognised`: the elements, attributes and declarations of a document are found in its
  module.
-/

namespace SvgBuilder

open SvgBuilder.Markup SvgBuilder.Text SvgBuilder.Source SvgBuilder.Comparison

/-! ## Beginnings of lines -/

/-- Whether one of some arguments has a word at the beginning of one of its lines. -/
def Shows (w : List Char) (items : List Item) : Prop := ∃ item ∈ items, Begins w item.render.toList

namespace Shows

variable {w : List Char} {items : List Item}

theorem subset {more : List Item} (h : Shows w items) (hSubset : items ⊆ more) : Shows w more := by
  obtain ⟨item, hItem, hBegins⟩ := h
  exact ⟨item, hSubset hItem, hBegins⟩

theorem begins (h : Shows w items) : Begins w (Item.content items).toList := by
  obtain ⟨item, hItem, hBegins⟩ := h
  exact hBegins.content hItem

theorem call (hw : ∀ c ∈ w, isLineBreak c = false) (label : String) (h : Shows w items) :
    Shows w [.call label items] := by
  refine ⟨_, List.mem_singleton_self _, ?_⟩
  rw [Item.render_call]
  exact h.begins.callText label hw

end Shows

/-- What the call of an element begins with. -/
def callOpening (label : String) : List Char := "svg.".toList ++ label.toList ++ ['(']

theorem not_isLineBreak_callOpening {label : String} (h : isMemberName label.toList = true) :
    ∀ c ∈ callOpening label, isLineBreak c = false := by
  refine List.forall_mem_append.2 ⟨List.forall_mem_append.2 ⟨?_, ?_⟩, ?_⟩
  · exact not_isLineBreak_of_all (by decide)
  · exact not_isLineBreak_of_isMemberName h
  · exact not_isLineBreak_of_all (by decide)

theorem begins_call (label : String) (items : List Item) :
    Begins (callOpening label) (Item.call label items).render.toList := by
  rw [Item.render_call, callText]
  split
  · have hText : ("svg." ++ label ++ "()").toList = callOpening label ++ [')'] := by
      simp [callOpening]
    rw [hText]
    exact Begins.head _ _
  · have hText (content : String) : ("svg." ++ label ++ "(\n" ++ content ++ "\n)").toList =
        callOpening label ++ ('\n' :: content.toList ++ ['\n', ')']) := by
      simp [callOpening]
    rw [hText]
    exact Begins.head _ _

/-! ## Elements -/

variable {w : List Char} {strict : Bool}

theorem shows_convertChildren {scope : Scope} {nodes : List Node} {node : Node}
    (hNode : node ∈ nodes) (h : Shows w (convertNode strict scope node).value) :
    Shows w (convertChildren strict scope nodes).value := by
  refine h.subset fun item hItem => ?_
  rw [value_convertChildren]
  exact List.mem_flatMap.2 ⟨node, hNode, hItem⟩

/-- What is shown for an element inside is shown for the elements around it. -/
theorem Shows.follow (hw : ∀ c ∈ w, isLineBreak c = false) {place inner : Place} {path : List Nat}
    (hInner : place.follow? path = some inner)
    (h : Shows w (convertNode strict inner.outer inner.node).value) :
    Shows w (convertNode strict place.outer place.node).value := by
  induction path generalizing place with
  | nil =>
    obtain rfl := Option.some.inj hInner
    exact h
  | cons index path ih =>
    obtain ⟨next, hNext, hRest⟩ := Option.bind_eq_some_iff.1 hInner
    obtain ⟨e, hPlace, hOuter, hNode⟩ := exists_of_child? hNext
    have hShows := ih hRest
    rw [hOuter] at hShows
    rw [hPlace, value_convertNode_element]
    exact Shows.call hw _
      ((shows_convertChildren hNode hShows).subset (List.subset_append_right _ _))

/-! ## Roots -/

/-- What is shown for an element below the root is shown among the arguments of the root. -/
theorem shows_rootItems {settings : Settings} {root : Element}
    (hw : ∀ c ∈ w, isLineBreak c = false) {path : List Nat} {place : Place}
    (hPlace : (Place.ofRoot root).follow? path = some place) (hBelow : path ≠ [])
    (h : Shows w (convertNode settings.strictTransforms place.outer place.node).value) :
    Shows w (rootItems settings root).value := by
  cases path with
  | nil => exact absurd rfl hBelow
  | cons index path =>
    obtain ⟨next, hNext, hRest⟩ := Option.bind_eq_some_iff.1 hPlace
    obtain ⟨node, hNode, rfl⟩ := Option.map_eq_some_iff.1 hNext
    have hChild : node ∈ root.children := (List.mem_filter.1 (List.mem_of_getElem? hNode)).1
    have hShows := Shows.follow hw hRest h
    rw [value_rootItems]
    cases hDefinitions : isDefinitions node with
    | true =>
      have hMem : node ∈ root.children.filter isDefinitions :=
        List.mem_filter.2 ⟨hChild, hDefinitions⟩
      exact (shows_convertChildren hMem hShows).subset fun item hItem =>
        List.mem_append_left _ (List.mem_append_right _ hItem)
    | false =>
      have hMem : node ∈ root.children.filter rootOmission.keeps :=
        List.mem_filter.2 ⟨hChild, by simp [keeps_rootOmission, hDefinitions]⟩
      exact (shows_convertChildren hMem hShows).subset fun item hItem =>
        List.mem_append_right _ (List.mem_append_right _ hItem)

/-- The attributes that are left out of an element: the root leaves some to its parameters. -/
def skippedAt (path : List Nat) : List String := if path = [] then parameterAttributes else []

/-- What an element states is shown among the arguments of the root. -/
theorem shows_ownItems {settings : Settings} {root : Element}
    (hw : ∀ c ∈ w, isLineBreak c = false) {path : List Nat} {place : Place}
    (hPlace : (Place.ofRoot root).follow? path = some place) {e : Element}
    (he : place.node.element? = some e)
    (h : Shows w (ownItems settings.strictTransforms (skippedAt path) place.outer e).value) :
    Shows w (rootItems settings root).value := by
  cases path with
  | nil =>
    obtain rfl := Option.some.inj hPlace
    obtain rfl := Option.some.inj he
    rw [value_rootItems]
    exact h.subset fun item hItem => List.mem_append_right _ (List.mem_append_left _ hItem)
  | cons index path =>
    obtain ⟨outer, node⟩ := place
    obtain rfl := eq_node_of_element? he
    refine shows_rootItems hw hPlace (List.cons_ne_nil _ _) ?_
    rw [value_convertNode_element]
    exact Shows.call hw _ (h.subset (List.subset_append_left _ _))

/-- The call of an element below the root is shown among the arguments of the root. -/
theorem shows_call {settings : Settings} {root : Element} {path : List Nat} {place : Place}
    (hPlace : (Place.ofRoot root).follow? path = some place) (hBelow : path ≠ []) {e : Element}
    (he : place.node.element? = some e) (hLabel : isMemberName e.name.localName.toList = true) :
    Shows (callOpening e.name.localName) (rootItems settings root).value := by
  refine shows_rootItems (not_isLineBreak_callOpening hLabel) hPlace hBelow ?_
  rw [eq_node_of_element? he, value_convertNode_element]
  exact ⟨_, List.mem_singleton_self _, begins_call _ _⟩

/-! ## Modules -/

/-- The module of the document of a file. -/
def moduleOf (settings : Settings) (fileName : CodeText) (root : Element) : String :=
  (assemble settings (moduleName fileName).shown fileName.shown root).value

/-- The module of the document of a file, with the settings where nothing is chosen. -/
def defaultModule (fileName : CodeText) (root : Element) : String :=
  (assemble .default (moduleName fileName).shown fileName.shown root).value

variable {settings : Settings} {root : Element} {fileName : CodeText}

theorem mem_names {pattern : Pattern} {s : String} {name : List Char}
    (h : name ∈ findings pattern (inside s.toList)) :
    normalizedName (String.ofList name) ∈ names pattern s :=
  mem_sorted.2 (List.mem_map.2 ⟨name, h, rfl⟩)

theorem normalizedName_of_mem_names {pattern : Pattern} {s name : String}
    (h : name ∈ names pattern s) : normalizedName name = name := by
  obtain ⟨found, -, rfl⟩ := List.mem_map.1 (mem_sorted.1 h)
  exact normalizedName_idem _

theorem mem_elementNames_front {label : String} (hLabel : isMemberName label.toList = true)
    (hOther : label ≠ "svgAttr") (h : Begins (callOpening label)
      (front settings (moduleName fileName).shown fileName.shown root).toList) :
    normalizedName label ∈ elementNames (moduleOf settings fileName root) := by
  obtain ⟨blanks, s, rest, hFront, hBlanks, hInside⟩ :=
    inside_assemble settings (moduleName fileName).shown fileName.shown root
  rw [hFront] at h
  have hBegins : Begins (callOpening label) s := h.of_blanks hBlanks (by decide)
  have hDifferent : label.toList ≠ "svgAttr".toList := fun hSame =>
    hOther (String.toList_injective hSame)
  have hFound := mem_findings_call hLabel hDifferent hBegins rest
  rw [← hInside] at hFound
  have hName := mem_names hFound
  rwa [String.ofList_toList] at hName

/-- The call of an element is found in a module that shows it. -/
theorem mem_elementNames_call (fileName : CodeText) {label : String}
    (hLabel : isMemberName label.toList = true) (hOther : label ≠ "svgAttr")
    (h : Shows (callOpening label) (rootItems settings root).value) :
    normalizedName label ∈ elementNames (moduleOf settings fileName root) :=
  mem_elementNames_front hLabel hOther (h.begins.front (not_isLineBreak_callOpening hLabel))

/-- The call of the root is found. -/
theorem mem_elementNames_root (settings : Settings) (fileName : CodeText) (root : Element) :
    "svg" ∈ elementNames (moduleOf settings fileName root) := by
  have hCall : "svg.svg(\n".toList = callOpening "svg" ++ ['\n'] := by decide
  have hBegins : Begins (callOpening "svg")
      (front settings (moduleName fileName).shown fileName.shown root).toList := by
    rw [front, String.append_assoc, String.append_assoc, String.toList_append]
    refine Begins.behind ?_ ?_
    · rw [opening, String.toList_append, linesUp_append]
      rfl
    · rw [String.toList_append, hCall, List.append_assoc]
      exact Begins.head _ _
  exact mem_elementNames_front (by decide) (by decide) hBegins

theorem mem_attributeNames (hHeader : IsFree (header settings).toList) {bytes : List UInt8}
    (hRead : readDocument bytes = .ok root) (hFree : IsFreeDocument root)
    (hFile : IsFree fileName.shown.toList) {member : Member} (hMember : member.IsFindable)
    (h : Shows member.opening (rootItems settings root).value) :
    normalizedName member.name ∈ attributeNames (moduleOf settings fileName root) := by
  obtain ⟨blanks, s, rest, hFront, hBlanks, hInside⟩ :=
    inside_assemble settings (moduleName fileName).shown fileName.shown root
  have hClosed := isClosed_front hHeader hRead (IsFree.moduleName hFile) hFile hFree
  have hBegins : Begins member.opening
      (front settings (moduleName fileName).shown fileName.shown root).toList :=
    h.begins.front (not_isLineBreak_opening hMember)
  rw [hFront] at hClosed hBegins
  have hShown : Begins member.opening s := by
    cases member <;> exact hBegins.of_blanks hBlanks (by decide)
  have hFound := mem_findings_member hMember hClosed.of_append hShown rest
  rw [← hInside] at hFound
  have hName := mem_names hFound
  rwa [String.ofList_toList] at hName

theorem shows_statement {s : Statement} (h : s.member.IsFindable) {items : List Item}
    (hMem : .statement s ∈ items) : Shows s.member.opening items :=
  ⟨_, hMem, begins_statement h⟩

/-- The statements that an element makes. -/
theorem mem_ownItems {strict : Bool} {skipped : List String} {outer : Scope} {e : Element}
    {s : Statement}
    (h : (∃ b ∈ introduced e.bindings outer, s = bindingStatement b) ∨
      ∃ entry ∈ attributeMap (Scope.enter e.bindings outer) skipped e.attributes,
        s = (convertAttribute strict entry.1 entry.2).value) :
    .statement s ∈ (ownItems strict skipped outer e).value := by
  rw [value_ownItems]
  refine List.mem_append_left _ (List.mem_map.2 ⟨s, List.mem_append.2 (h.imp ?_ ?_), rfl⟩)
  · rintro ⟨b, hb, rfl⟩
    exact List.mem_map.2 ⟨b, hb, rfl⟩
  · rintro ⟨entry, hEntry, rfl⟩
    exact List.mem_map.2 ⟨entry, hEntry, rfl⟩

/-- The names of the attributes that the parameters of a module set. -/
def parameterNames (box : String) : List String :=
  ["width", "height"] ++ if box = "" then [] else ["viewBox"]

theorem shows_parameterItems {box name : String} (h : name ∈ parameterNames box) :
    Shows (Member.named name).opening (parameterItems box) := by
  have hFixed (text : String) (hText : text.toList = (Member.named name).opening ++
      " size.toString".toList) (hMem : .fixed text ∈ parameterItems box) :
      Shows (Member.named name).opening (parameterItems box) := by
    refine ⟨_, hMem, ?_⟩
    rw [Item.render, hText]
    exact Begins.head _ _
  rcases List.mem_append.1 h with h | h
  · simp only [List.mem_cons, List.not_mem_nil, or_false] at h
    rcases h with rfl | rfl
    · exact hFixed "svg.width := size.toString" (by decide) (by simp [parameterItems])
    · exact hFixed "svg.height := size.toString" (by decide) (by simp [parameterItems])
  · split at h
    · exact absurd h List.not_mem_nil
    · next hBox =>
      obtain rfl := List.mem_singleton.1 h
      have hFindable : (Statement.assign "viewBox" box).member.IsFindable :=
        (by decide : isMemberName "viewBox".toList = true)
      exact shows_statement hFindable (by simp [parameterItems, viewBoxItems, hBox])

theorem isNameText_qualified {scope : Scope} (hScope : ∀ b ∈ scope, b.Named) {name : Name}
    (h : IsNameText name.localName.toList) : IsNameText (qualified scope name).toList := by
  unfold qualified
  split
  · exact h
  · split
    · next label hLabel =>
      have hColon : isNameChar ':' = true := by decide
      intro c hc
      simp only [String.toList_append, List.mem_append] at hc
      rcases hc with (hc | hc) | hc
      · exact isNameText_labelFor? hScope hLabel c hc
      · obtain rfl : c = ':' := by simpa using hc
        exact hColon
      · exact h c hc
    · exact h

/-- Names of attributes that do not come from behind a closing brace stand in a module as they
are. -/
theorem isVerbatim_of_mem_attributeMap {scope : Scope} (hScope : ∀ b ∈ scope, b.Named)
    {e : Element} (he : e.Named) {skipped : List String} {entry : String × String}
    (h : entry ∈ attributeMap scope skipped e.attributes) (hBrace : '\x7d' ∉ entry.1.toList) :
    IsVerbatim entry.1.toList := by
  obtain ⟨a, ha, rfl⟩ := exists_of_mem_attributeMap h
  have hName := (he.attributes a ha).isNameText fun hMem => hBrace (mem_qualified hMem)
  exact isVerbatim_of_isNameText (isNameText_qualified hScope hName)

/-! ## Documents -/

/-- A statement of an element is found in the module. -/
theorem mem_attributeNames_own (hHeader : IsFree (header settings).toList) {bytes : List UInt8}
    (h : readDocument bytes = .ok root) (hFree : IsFreeDocument root)
    (hFile : IsFree fileName.shown.toList) {path : List Nat} {place : Place}
    (hPlace : (Place.ofRoot root).follow? path = some place) {e : Element}
    (he : place.node.element? = some e) {s : Statement} (hFindable : s.member.IsFindable)
    (hOwn : .statement s ∈ (ownItems settings.strictTransforms (skippedAt path) place.outer
      e).value) :
    normalizedName s.member.name ∈ attributeNames (moduleOf settings fileName root) := by
  have hShows := shows_ownItems (not_isLineBreak_opening hFindable) hPlace he
    (shows_statement hFindable hOwn)
  exact mem_attributeNames hHeader h hFree hFile hFindable hShows

/-- What the parameters of the module set is found in it. -/
theorem mem_attributeNames_size (hHeader : IsFree (header settings).toList) {bytes : List UInt8}
    (h : readDocument bytes = .ok root) (hFree : IsFreeDocument root)
    (hFile : IsFree fileName.shown.toList) {name : String}
    (hName : name ∈ parameterNames (viewBox root).value) :
    name ∈ attributeNames (moduleOf settings fileName root) := by
  have hShows : Shows (Member.named name).opening (rootItems settings root).value := by
    refine (shows_parameterItems hName).subset fun item hItem => ?_
    rw [value_rootItems]
    exact List.mem_append_left _ (List.mem_append_left _ hItem)
  have hAll : ∀ name ∈ ["width", "height", "viewBox"],
      isMemberName name.toList = true ∧ normalizedName name = name := by decide
  obtain ⟨hMember, hSame⟩ : isMemberName name.toList = true ∧ normalizedName name = name := by
    refine hAll name ?_
    rcases List.mem_append.1 hName with hSize | hBox
    · exact List.mem_append_left ["viewBox"] hSize
    · split at hBox
      · exact absurd hBox List.not_mem_nil
      · exact List.mem_append_right ["width", "height"] hBox
  have hFindable : (Member.named name).IsFindable := hMember
  have hFound := mem_attributeNames hHeader h hFree hFile hFindable hShows
  rwa [Member.name, hSame] at hFound

/-! ## The settings where nothing is chosen -/

theorem isFree_header_default : IsFree (header .default).toList := by decide +kernel

theorem mem_elementNames (fileName : CodeText) {label : String}
    (hLabel : isMemberName label.toList = true) (hOther : label ≠ "svgAttr")
    (h : Shows (callOpening label) (rootItems .default root).value) :
    normalizedName label ∈ elementNames (defaultModule fileName root) :=
  mem_elementNames_call fileName hLabel hOther h

theorem mem_attributeNames_statement {bytes : List UInt8} (h : readDocument bytes = .ok root)
    (hFree : IsFreeDocument root) (hFile : IsFree fileName.shown.toList) {path : List Nat}
    {place : Place} (hPlace : (Place.ofRoot root).follow? path = some place) {e : Element}
    (he : place.node.element? = some e) {s : Statement} (hFindable : s.member.IsFindable)
    (hOwn : .statement s ∈ (ownItems Settings.default.strictTransforms (skippedAt path) place.outer
      e).value) : normalizedName s.member.name ∈ attributeNames (defaultModule fileName root) :=
  mem_attributeNames_own isFree_header_default h hFree hFile hPlace he hFindable hOwn

theorem mem_attributeNames_parameter {bytes : List UInt8} (h : readDocument bytes = .ok root)
    (hFree : IsFreeDocument root) (hFile : IsFree fileName.shown.toList) {name : String}
    (hName : name ∈ parameterNames (viewBox root).value) :
    name ∈ attributeNames (defaultModule fileName root) :=
  mem_attributeNames_size isFree_header_default h hFree hFile hName

/-- The elements, attributes and declarations of a document are found in its module.  An element is
found by its name as it is put back, so under its own name exactly if that is not the name of a
member that stands for an attribute.  An attribute is found if its name is one of a member, or
holds a colon and stands in the module as it is; all names do that but those that come from behind
a closing brace in a namespace. -/
theorem module_recognised {bytes : List UInt8} (h : readDocument bytes = .ok root)
    {path : List Nat} {place : Place} (hPlace : (Place.ofRoot root).follow? path = some place)
    {e : Element} (he : place.node.element? = some e) (fileName : CodeText) :
    (path ≠ [] → isMemberName e.name.localName.toList = true → e.name.localName ≠ "svgAttr" →
      normalizedName e.name.localName ∈ elementNames (defaultModule fileName root) ∧
      (e.name.localName ∈ elementNames (defaultModule fileName root) ↔
        normalizedName e.name.localName = e.name.localName)) ∧
    (IsFreeDocument root → IsFree fileName.shown.toList →
      (∀ entry ∈ attributeMap place.scope (skippedAt path) e.attributes,
        isMemberName entry.1.toList = true ∨ ':' ∈ entry.1.toList ∧ IsVerbatim entry.1.toList →
          normalizedName entry.1 ∈ attributeNames (defaultModule fileName root)) ∧
      (∀ b ∈ introduced e.bindings place.outer, b.HasMemberLabel →
        b.attributeName ∈ attributeNames (defaultModule fileName root)) ∧
      ∀ name ∈ parameterNames (viewBox root).value,
        name ∈ attributeNames (defaultModule fileName root)) ∧
    ∀ entry ∈ attributeMap place.scope (skippedAt path) e.attributes,
      '\x7d' ∉ entry.1.toList → IsVerbatim entry.1.toList := by
  have hScope := (Place.scope_eq_enter he).2
  refine ⟨fun hBelow hLabel hOther => ?_, fun hFree hFile => ⟨?_, ?_, ?_⟩, ?_⟩
  · have hFound := mem_elementNames fileName hLabel hOther (shows_call hPlace hBelow he hLabel)
    refine ⟨hFound, normalizedName_of_mem_names, fun hSame => ?_⟩
    rwa [hSame] at hFound
  · intro entry hEntry hName
    rw [hScope] at hEntry
    obtain ⟨hFindable, hSame⟩ :=
      isFindable_convertAttribute Settings.default.strictTransforms entry.2 hName
    rw [← hSame]
    exact mem_attributeNames_statement h hFree hFile hPlace he hFindable
      (mem_ownItems (.inr ⟨entry, hEntry, rfl⟩))
  · intro b hb hLabel
    obtain ⟨hFindable, hSame⟩ := isFindable_bindingStatement hLabel
    rw [← hSame]
    exact mem_attributeNames_statement h hFree hFile hPlace he hFindable
      (mem_ownItems (.inl ⟨b, hb, rfl⟩))
  · exact fun name => mem_attributeNames_parameter h hFree hFile
  · have hNamed := named_of_readDocument h
    have hWithin := within_of_follow? hPlace
    have hElement := hNamed e (hWithin.element he)
    have hBindings : ∀ b ∈ place.scope, b.Named := fun b hb =>
      (mem_of_mem_enter (hScope ▸ hb)).elim (hElement.bindings b) (hWithin.named hNamed b)
    exact fun entry => isVerbatim_of_mem_attributeMap hBindings hElement

/-- A document with an attribute in a namespace and one whose member has another name. -/
def markedText : String :=
  "<svg viewBox='0 0 9 9'><a xmlns:p='u' p:x='svgAttr' class='k'/></svg>"

/-- The element inside, its attributes and its declaration are found, and so is the view box. -/
theorem module_recognised_marked : ∃ root, readString markedText = .ok root ∧
    IsFreeDocument root ∧ "a" ∈ elementNames (defaultModule "marked.svg" root) ∧
    ∀ name ∈ ["p:x", "class", "xmlns:p", "viewBox"],
      name ∈ attributeNames (defaultModule "marked.svg" root) := by
  obtain ⟨root, hRoot, hAll⟩ := exists_of_readsWith (by decide +kernel :
    readsWith (fun root => decide (IsFreeDocument root) &&
      decide ((viewBox root).value = "0 0 9 9") &&
      ((Place.ofRoot root).follow? [0]).any fun place => place.node.element?.any fun e =>
        decide (e.name.localName = "a") &&
        decide (attributeMap place.scope [] e.attributes = [("p:x", "svgAttr"), ("class", "k")]) &&
        decide (introduced e.bindings place.outer = [⟨some "p", "u"⟩])) markedText = true)
  obtain ⟨hDocument, hPlace⟩ := Bool.and_eq_true_iff.1 hAll
  simp only [Bool.and_eq_true, decide_eq_true_eq] at hDocument
  obtain ⟨place, hFollow, hPlace⟩ := (Option.any_eq_true _ _).1 hPlace
  obtain ⟨e, he, hElement⟩ := (Option.any_eq_true _ _).1 hPlace
  simp only [Bool.and_eq_true, decide_eq_true_eq] at hElement
  obtain ⟨⟨hName, hAttributes⟩, hBindings⟩ := hElement
  obtain ⟨hElements, hFound, -⟩ := module_recognised hRoot hFollow he "marked.svg"
  obtain ⟨hEntries, hDeclared, hParameters⟩ := hFound hDocument.1 (by decide)
  rw [hName] at hElements
  have hSkipped : skippedAt [0] = [] := rfl
  rw [hSkipped, hAttributes] at hEntries
  rw [hBindings] at hDeclared
  rw [hDocument.2] at hParameters
  have hLabel : Binding.HasMemberLabel ⟨some "p", "u"⟩ := by
    intro label hSome
    obtain rfl := Option.some.inj hSome
    decide
  refine ⟨root, hRoot, hDocument.1, ?_, ?_⟩
  · exact (hElements (by decide) (by decide) (by decide)).2.2 (by decide)
  · intro name hMem
    simp only [List.mem_cons, List.not_mem_nil, or_false] at hMem
    rcases hMem with rfl | rfl | rfl | rfl
    · exact hEntries ("p:x", "svgAttr") (by simp) (.inr (by decide))
    · exact hEntries ("class", "k") (by simp) (.inl (by decide))
    · exact hDeclared _ (by simp) hLabel
    · exact hParameters "viewBox" (by decide)

end SvgBuilder
