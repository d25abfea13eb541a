import SvgBuilder.Markup.Document
import SvgBuilder.Markup.Place
import SvgBuilder.Proofs.Markup.Outcome

/-!
# Names of documents

Every name of a document is read as characters that may stand in names.  Its local part may hold
others nevertheless: an expanded name is read back from a notation in which the namespace ends at
the first closing brace, and a namespace that holds one goes on in the local part.

## Main results

* `named_of_readDocument`: the names of the elements, the attributes and the prefixes of a
  document.
* `IsReadBack.isNameText`: a local part without a closing brace consists of name characters.
-/

namespace SvgBuilder.Markup

open SvgBuilder.Text

/-- Whether a text consists of characters that may stand in names. -/
def IsNameText (s : List Char) : Prop := ∀ c ∈ s, isNameChar c = true

theorem not_mem_of_isNameText {s : List Char} (h : IsNameText s) : '\x7d' ∉ s :=
  fun hMem => absurd (h _ hMem) (by decide)

/-! ## Names as they are written -/

theorem ensures_readName (fault : Fault) (s : List Char) :
    Ensures (readName fault s) fun r => IsNameText r.1 := by
  cases s with
  | nil => exact Ensures.error _ _
  | cons c s =>
      unfold readName
      dsimp only
      split
      · next h =>
          have hName : IsNameText (c :: s.takeWhile isNameChar) := by
            intro d hd
            rcases List.mem_cons.1 hd with rfl | hd
            · simp [isNameChar, h.1]
            · exact List.all_eq_true.1 List.all_takeWhile d hd
          exact Ensures.ok hName
      · exact Ensures.error _ _

theorem ensures_readAttributes (steps : Nat) (s : List Char) :
    Ensures (readAttributes steps s) fun r => ∀ a ∈ r.1.1, IsNameText a.name := by
  induction steps generalizing s with
  | zero => exact Ensures.error _ _
  | succ steps ih =>
      unfold readAttributes
      split
      · exact Ensures.pure (by simp)
      · exact Ensures.pure (by simp)
      · split
        · exact Ensures.error _ _
        · refine (ensures_readName _ _).bind fun r hr => ?_
          refine (Ensures.trivial _).bind fun s _ => ?_
          refine (Ensures.trivial _).bind fun t _ => ?_
          refine (Ensures.trivial _).bind fun value _ => ?_
          refine (ih _).bind fun more hMore => Ensures.pure ?_
          simpa using ⟨hr, hMore⟩

mutual

/-- Whether the names of a draft are as they are read. -/
def Draft.Named : Draft → Prop
  | .element name attributes children =>
    IsNameText name ∧ (∀ a ∈ attributes, IsNameText a.name) ∧ AllNamed children
  | _ => True

/-- Whether the names of some drafts are as they are read. -/
def AllNamed : List Draft → Prop
  | [] => True
  | draft :: drafts => draft.Named ∧ AllNamed drafts

end

theorem allNamed_prependChar {drafts : List Draft} (h : AllNamed drafts) (c : Char) :
    AllNamed (Draft.prependChar c drafts) := by
  unfold Draft.prependChar
  split
  · exact ⟨True.intro, h.2⟩
  · exact ⟨True.intro, h⟩

theorem allNamed_ofPieces (pieces : List Piece) : AllNamed (Draft.ofPieces pieces) := by
  induction pieces with
  | nil => exact True.intro
  | cons piece pieces ih =>
      cases piece with
      | char c => exact allNamed_prependChar ih c
      | entity name => exact ⟨True.intro, ih⟩

theorem allNamed_join {drafts more : List Draft} (h : AllNamed drafts) (hm : AllNamed more) :
    AllNamed (Draft.join drafts more) := by
  fun_induction Draft.join drafts more with
  | case1 => exact hm
  | case2 => exact ⟨True.intro, hm.2⟩
  | case3 d ds more _ ih => exact ⟨h.1, ih h.2 hm⟩

theorem ensures_readText (s : List Char) : Ensures (readText s) AllNamed := by
  unfold readText
  split
  · exact Ensures.error _ _
  · exact (Ensures.trivial _).bind fun pieces _ => Ensures.pure (allNamed_ofPieces pieces)

theorem ensures_readNodes (steps depth : Nat) (s : List Char) :
    Ensures (readNodes steps depth s) fun r => AllNamed r.1 := by
  induction steps generalizing depth s with
  | zero => exact Ensures.error _ _
  | succ steps ih =>
      unfold readNodes
      split
      · exact Ensures.pure True.intro
      · exact Ensures.pure True.intro
      · -- an instruction
        refine (Ensures.trivial _).bind fun _ _ => ?_
        exact (ih _ _).bind fun _ hMore => Ensures.pure ⟨True.intro, hMore⟩
      · split
        · -- a comment
          refine (Ensures.trivial _).bind fun _ _ => ?_
          exact (ih _ _).bind fun _ hMore => Ensures.pure ⟨True.intro, hMore⟩
        · split
          · exact (ih _ _).bind fun _ hMore =>
              Ensures.pure (allNamed_join ⟨True.intro, True.intro⟩ hMore)
          · exact Ensures.error _ _
      · -- an element
        refine (ensures_readName _ _).bind fun name hName => ?_
        refine (ensures_readAttributes _ _).bind fun tag hTag => ?_
        obtain ⟨⟨attributes, closed⟩, rest⟩ := tag
        dsimp only
        split
        · exact Ensures.error _ _
        · have hElement (children : List Draft × List Char) (hChildren : AllNamed children.1) :
              Ensures (readNodes steps depth children.2 >>= fun more =>
                pure (.element name.1 attributes children.1 :: more.1, more.2))
                fun r => AllNamed r.1 :=
            (ih _ _).bind fun _ hMore => Ensures.pure ⟨⟨hName, hTag, hChildren⟩, hMore⟩
          split
          · exact hElement ([], rest) True.intro
          · refine (ih _ _).bind fun children hChildren => ?_
            exact (Ensures.trivial _).bind fun rest _ => hElement (children.1, rest) hChildren
      · refine (ensures_readText _).bind fun drafts hDrafts => ?_
        exact (ih _ _).bind fun _ hMore => Ensures.pure (allNamed_join hDrafts hMore)

theorem ensures_readRoot (s : List Char) : Ensures (readRoot s) fun r => r.1.Named := by
  unfold readRoot
  split
  · refine (ensures_readName _ _).bind fun name hName => ?_
    refine (ensures_readAttributes _ _).bind fun tag hTag => ?_
    obtain ⟨⟨attributes, closed⟩, rest⟩ := tag
    have hElement {children : List Draft} (hChildren : AllNamed children) :
        (Draft.element name.1 attributes children).Named := ⟨hName, hTag, hChildren⟩
    dsimp only
    split
    · exact Ensures.pure (hElement True.intro)
    · refine (ensures_readNodes _ _ _).bind fun children hChildren => ?_
      exact (Ensures.trivial _).bind fun rest _ => Ensures.pure (hElement hChildren)
  · exact Ensures.error _ _

/-! ## Names that are taken apart -/

/-- Whether both parts of a name are as they are read. -/
def QualifiedName.Named (q : QualifiedName) : Prop :=
  (∀ label, q.label = some label → IsNameText label.toList) ∧ IsNameText q.localName.toList

/-- Whether a name is as it is read back from its notation with braces. -/
def Name.IsReadBack (name : Name) : Prop :=
  ∃ read : Name, IsNameText read.localName.toList ∧ name = read.reread

/-- Whether the prefix of a binding is as it is read. -/
def Binding.Named (b : Binding) : Prop := ∀ label, b.label = some label → IsNameText label.toList

theorem isNameText_of_isLocalName {s : List Char} (h : isLocalName s = true) : IsNameText s := by
  cases s with
  | nil => exact nomatch h
  | cons c s =>
      simp only [isLocalName, Bool.and_eq_true, List.all_eq_true] at h
      obtain ⟨⟨hStart, -⟩, hRest⟩ := h
      intro d hd
      rcases List.mem_cons.1 hd with rfl | hd
      · simp [isNameChar, hStart]
      · exact (hRest d hd).1

theorem named_of_ofName? {name : List Char} {q : QualifiedName}
    (h : QualifiedName.ofName? name = some q) : q.Named := by
  unfold QualifiedName.ofName? at h
  split at h
  · next l _ =>
      split at h
      · next hl =>
          obtain rfl := Option.some.inj h
          exact ⟨fun _ hLabel => (nomatch hLabel), by simpa using isNameText_of_isLocalName hl⟩
      · exact nomatch h
  · next p l _ =>
      split at h
      · next hpl =>
          obtain rfl := Option.some.inj h
          obtain ⟨hp, hl⟩ := Bool.and_eq_true_iff.1 hpl
          refine ⟨fun label hLabel => ?_, by simpa using isNameText_of_isLocalName hl⟩
          obtain rfl := Option.some.inj hLabel
          simpa using isNameText_of_isLocalName hp
      · exact nomatch h
  · exact nomatch h

/-- Without a closing brace nothing of the namespace has come into the local part. -/
theorem Name.IsReadBack.isNameText {name : Name} (h : name.IsReadBack)
    (hb : '\x7d' ∉ name.localName.toList) : IsNameText name.localName.toList := by
  obtain ⟨read, hRead, rfl⟩ := h
  unfold Name.reread at hb ⊢
  split at hb
  · exact hRead
  · split at hb
    · exact hRead
    · exact absurd (by simp) hb

theorem yields_qualify {name : List Char} (h : IsNameText name) :
    Yields (qualify name) QualifiedName.Named := by
  unfold qualify
  split
  · next hq => exact Yields.pure (named_of_ofName? hq)
  · exact Yields.after _ fun _ => Yields.pure ⟨fun _ hLabel => (nomatch hLabel), by simpa using h⟩

theorem yields_expandName {q : QualifiedName} (h : q.Named) (scope : Scope)
    (default : Option String) :
    Yields (expandName scope default q) fun name => IsNameText name.localName.toList := by
  unfold expandName
  split
  · exact Yields.pure h.2
  · next label hLabel =>
      split
      · exact Yields.pure h.2
      · refine Yields.after _ fun _ => Yields.pure fun c hc => ?_
        simp only [String.toList_append, List.mem_append] at hc
        rcases hc with (hc | hc) | hc
        · exact h.1 label hLabel c hc
        · obtain rfl : c = ':' := by simpa using hc
          decide
        · exact h.2 c hc

/-! ## Declarations and attributes -/

theorem named_of_declared? {q : QualifiedName} {label : Option String} (h : q.Named)
    (hd : q.declared? = some label) : ∀ l, label = some l → IsNameText l.toList := by
  unfold QualifiedName.declared? at hd
  split at hd
  · obtain rfl := Option.some.inj hd
    exact fun _ hl => nomatch hl
  · next l =>
      obtain rfl := Option.some.inj hd
      intro l' hl
      obtain rfl := Option.some.inj hl
      exact h.2
  · exact nomatch hd

/-- A declaration makes a binding of its prefix and its namespace, unless they are fixed. -/
theorem yields_bindingOf_of {P : Binding → Prop} {label : Option String} {uri : List Char}
    (h : label ≠ some "xml" → isForbidden label (String.ofList uri) = false →
      P ⟨label, String.ofList uri⟩) :
    Yields (bindingOf label uri) fun r => ∀ b, r = some b → P b := by
  have hNone : Yields (Pure.pure none : Reading (Option Binding)) fun r => ∀ b, r = some b → P b :=
    Yields.pure fun _ hb => nomatch hb
  unfold bindingOf
  dsimp only
  split
  · exact Yields.optional fun _ => hNone
  · next hFree =>
    have hMade : Yields (if isForbidden label (String.ofList uri) = true then do
        note .declaration
        pure none
      else pure (some ⟨label, String.ofList uri⟩) : Reading (Option Binding))
        fun r => ∀ b, r = some b → P b := by
      split
      · exact Yields.after _ fun _ => hNone
      · next hAllowed =>
        refine Yields.pure fun b hb => ?_
        obtain rfl := Option.some.inj hb
        exact h hFree (by simpa using hAllowed)
    exact Yields.optional fun _ => hMade

theorem yields_bindingOf {label : Option String}
    (h : ∀ l, label = some l → IsNameText l.toList) (uri : List Char) :
    Yields (bindingOf label uri) fun r => ∀ b, r = some b → b.Named :=
  yields_bindingOf_of fun _ _ => h

theorem ensures_declare {bindings : List Binding} {binding : Binding}
    (h : ∀ b ∈ bindings, b.Named) (hb : binding.Named) :
    Ensures (declare bindings binding) fun r => ∀ b ∈ r, b.Named := by
  unfold declare
  split
  · exact Ensures.error _ _
  · refine Ensures.ok fun b hMem => ?_
    rcases List.mem_append.1 hMem with hMem | hMem
    · exact h b hMem
    · obtain rfl : b = binding := by simpa using hMem
      exact hb

/-- The attributes of an element are taken one by one.  What holds of every binding that one of them
makes is kept up for all bindings together, and what holds of every name is kept of the attributes
that are no declarations. -/
theorem yields_takeAttributes_of (around : Surroundings) {Q : QualifiedName → Prop}
    {P : Binding → Prop} {I : List Binding → Prop}
    (hBinding : ∀ q label uri, Q q → q.declared? = some label →
      Yields (bindingOf label uri) fun r => ∀ b, r = some b → P b)
    (hDeclare : ∀ bindings b, I bindings → P b → Ensures (declare bindings b) I)
    {attributes : List DraftAttribute} (h : ∀ a ∈ attributes, Yields (qualify a.name) Q)
    {bindings : List Binding} (hb : I bindings) :
    Yields (takeAttributes around bindings attributes) fun r => I r.1 ∧ ∀ a ∈ r.2, Q a.1 := by
  induction attributes generalizing bindings with
  | nil => exact Yields.pure ⟨hb, fun a ha => absurd ha List.not_mem_nil⟩
  | cons a attributes ih =>
      have hRest : ∀ a ∈ attributes, Yields (qualify a.name) Q := fun a ha =>
        h a (List.mem_cons_of_mem _ ha)
      unfold takeAttributes
      refine (h a List.mem_cons_self).bind fun q hq => ?_
      split
      · next label hLabel =>
          refine Yields.after _ fun uri => ?_
          refine (hBinding q label uri hq hLabel).bind fun r hr => ?_
          split
          · next binding =>
              have hMore := Yields.lift (hDeclare bindings binding hb (hr binding rfl))
              exact hMore.bind fun more hMore => ih hRest hMore
          · exact ih hRest hb
      · have hOthers : Yields (do
            let r ← takeAttributes around bindings attributes
            pure (r.1, (q, a.value) :: r.2)) fun r => I r.1 ∧ ∀ a ∈ r.2, Q a.1 := by
          refine (ih hRest hb).bind fun r hr => Yields.pure ⟨hr.1, fun other hOther => ?_⟩
          rcases List.mem_cons.1 hOther with rfl | hOther
          · exact hq
          · exact hr.2 other hOther
        exact Yields.after _ fun _ => Yields.optional fun _ => hOthers

theorem yields_takeAttributes (around : Surroundings) {attributes : List DraftAttribute}
    (h : ∀ a ∈ attributes, IsNameText a.name) {bindings : List Binding}
    (hb : ∀ b ∈ bindings, b.Named) :
    Yields (takeAttributes around bindings attributes) fun r =>
      (∀ b ∈ r.1, b.Named) ∧ ∀ a ∈ r.2, a.1.Named :=
  yields_takeAttributes_of around
    (fun _ _ uri hq hLabel => yields_bindingOf (named_of_declared? hq hLabel) uri)
    (fun _ _ => ensures_declare) (fun a ha => yields_qualify (h a ha)) hb

/-- The attributes of an element have the names that are written, read back, and of each name the
first value. -/
theorem yields_finishAttributes_of (around : Surroundings) {P : Name → Prop}
    {written : List WrittenAttribute} (h : ∀ a ∈ written, P a.name) :
    Yields (finishAttributes around written) fun r => ∃ finished : List Attribute,
      (∀ a ∈ finished, P a.name) ∧ r = finished.map fun a => (a.firstValue finished).reread := by
  unfold finishAttributes
  split
  · exact Yields.pure ⟨[], fun a ha => absurd ha List.not_mem_nil, rfl⟩
  · have hFinish (a : WrittenAttribute) (ha : a ∈ written) :
        Yields (finishAttribute around.declarations a) fun b => P b.name := by
      unfold finishAttribute
      exact Yields.after _ fun s => Yields.optional fun _ => Yields.pure (h a ha)
    exact (Yields.mapM hFinish).bind fun finished hFinished =>
      Yields.pure ⟨finished, hFinished, rfl⟩

theorem yields_finishAttributes (around : Surroundings) {written : List WrittenAttribute}
    (h : ∀ a ∈ written, IsNameText a.name.localName.toList) :
    Yields (finishAttributes around written) fun r => ∀ a ∈ r, a.name.IsReadBack := by
  have hFinished := yields_finishAttributes_of (P := fun name => IsNameText name.localName.toList)
    around h
  refine hFinished.imp fun r hr b hb => ?_
  obtain ⟨finished, hNames, rfl⟩ := hr
  obtain ⟨a, ha, rfl⟩ := List.mem_map.1 hb
  exact ⟨a.name, hNames a ha, rfl⟩

/-! ## Documents -/

/-- Whether the names of an element are as they are read from a document. -/
structure Element.Named (e : Element) : Prop where
  name : e.name.IsReadBack
  attributes : ∀ a ∈ e.attributes, a.name.IsReadBack
  bindings : ∀ b ∈ e.bindings, b.Named

mutual

theorem yields_resolve (around : Surroundings) (scope : Scope) (depth : Nat) : (draft : Draft) →
    draft.Named → Yields (Draft.resolve around scope depth draft) fun node =>
      ∀ e ∈ node.elements, e.Named
  | .element name attributes children, h => by
      unfold Draft.resolve
      refine (yields_qualify h.1).bind fun q hq => ?_
      refine (yields_takeAttributes around h.2.1 (by simp)).bind fun r hr => ?_
      obtain ⟨bindings, others⟩ := r
      dsimp only
      have hWritten : Yields (others.mapM fun (q, value) => do
          pure (⟨q, ← expandName (scope.enter bindings) none q, value⟩ : WrittenAttribute))
          fun written => ∀ a ∈ written, IsNameText a.name.localName.toList :=
        Yields.mapM fun a ha => (yields_expandName (hr.2 a ha) _ _).bind fun name hName =>
          Yields.pure hName
      refine hWritten.bind fun written hWritten => Yields.after _ fun _ => ?_
      refine (yields_expandName hq _ _).bind fun expanded hExpanded => ?_
      refine (yields_finishAttributes around hWritten).bind fun finished hFinished => ?_
      refine (yields_resolveAll around _ _ children h.2.2).bind fun nodes hNodes => ?_
      refine Yields.pure fun e he => ?_
      rw [Node.elements] at he
      rcases List.mem_cons.1 he with rfl | he
      · exact ⟨⟨expanded, hExpanded, rfl⟩, hFinished, hr.1⟩
      · exact hNodes e he
  | .text _, _ => by
      unfold Draft.resolve
      exact Yields.pure (by simp [Node.elements])
  | .comment _, _ => by
      unfold Draft.resolve
      exact Yields.pure (by simp [Node.elements])
  | .instruction _ _, _ => by
      unfold Draft.resolve
      exact Yields.after _ fun _ => Yields.pure (by simp [Node.elements])
  | .reference _, _ => by
      unfold Draft.resolve
      exact Yields.after _ fun _ => Yields.pure (by simp [Node.elements])

theorem yields_resolveAll (around : Surroundings) (scope : Scope) (depth : Nat) :
    (drafts : List Draft) → AllNamed drafts →
    Yields (resolveAll around scope depth drafts) fun nodes =>
      ∀ e ∈ Node.elementsOf nodes, e.Named
  | [], _ => by
      unfold resolveAll
      exact Yields.pure (by simp [Node.elementsOf])
  | draft :: drafts, h => by
      unfold resolveAll
      refine (yields_resolve around scope depth draft h.1).bind fun node hNode => ?_
      refine (yields_resolveAll around scope depth drafts h.2).bind fun nodes hNodes => ?_
      refine Yields.pure fun e he => ?_
      rw [Node.elementsOf] at he
      exact (List.mem_append.1 he).elim (hNode e) (hNodes e)

end

theorem elements_of_element? {node : Node} {e : Element} (h : node.element? = some e) :
    node.elements = e.elements := by
  cases node with
  | element name bindings attributes children =>
      obtain rfl := Option.some.inj h
      rw [Node.elements]
      rfl
  | _ => exact nomatch h

section Documents

variable {P : Element → Prop}

/-- Whether a property holds of every root whose names and entities are settled. -/
def HoldsOfRoots (P : Element → Prop) : Prop :=
  ∀ (declarations : Declarations) (draft : Draft), draft.Named →
    Yields (Draft.resolve (Surroundings.ofDocument declarations) [] 0 draft) fun node =>
      ∀ root, node.element? = some root → P root

theorem yields_readAll (hP : HoldsOfRoots P) (s : List Char) : Yields (readAll s) P := by
  unfold readAll
  refine Yields.after _ fun heading => ?_
  dsimp only
  refine Yields.optional fun _ => Yields.after _ fun prolog => ?_
  refine (Yields.lift (ensures_readRoot _)).bind fun draft hDraft => ?_
  refine (hP _ draft.1 hDraft).bind fun node hNode => Yields.after _ fun rest => ?_
  split
  · exact Yields.throw _ _
  · split
    · next root hRoot => exact Yields.pure (hNode root hRoot)
    · exact Yields.throw _ _

theorem ensures_readCharacters (hP : HoldsOfRoots P) (s : List Char) :
    Ensures (readCharacters s) P := by
  intro root h
  unfold readCharacters at h
  split at h
  · obtain ⟨progress, hRead, -⟩ := isAccepted_of_accept h
    exact yields_readAll hP s _ _ hRead
  · exact nomatch h

/-- What holds of every root whose names are settled holds of every document. -/
theorem ensures_readDocument (hP : HoldsOfRoots P) (bytes : List UInt8) :
    Ensures (readDocument bytes) P := by
  unfold readDocument
  dsimp only
  split
  · refine (Ensures.trivial _).bind fun marked _ => ?_
    split
    · exact ensures_readCharacters hP _
    · exact Ensures.error _ _
  · refine (Ensures.trivial _).bind fun encoding _ => (Ensures.trivial _).bind fun marked _ => ?_
    split
    · exact ensures_readCharacters hP _
    · exact Ensures.error _ _

end Documents

/-- Whatever a document is read as, its names are as names are read. -/
theorem named_of_readDocument {bytes : List UInt8} {root : Element}
    (h : readDocument bytes = .ok root) : ∀ e ∈ root.elements, e.Named := by
  have hRoots : HoldsOfRoots fun root => ∀ e ∈ root.elements, e.Named := by
    intro declarations draft hDraft
    refine (yields_resolve _ _ _ draft hDraft).imp fun node hNode root hRoot e he => ?_
    rw [elements_of_element? hRoot] at hNode
    exact hNode e he
  exact ensures_readDocument hRoots bytes root h

/-- Whether a text is read as a document with a property. -/
def readsWith (p : Element → Bool) (s : String) : Bool := (readString s).toOption.any p

theorem exists_of_readsWith {p : Element → Bool} {s : String} (h : readsWith p s = true) :
    ∃ root, readString s = .ok root ∧ p root = true := by
  unfold readsWith at h
  cases hRead : readString s with
  | ok root => exact ⟨root, rfl, by simpa [hRead, Except.toOption] using h⟩
  | error fault => simp [hRead, Except.toOption] at h

/-! ## Places -/

theorem subset_elements_of_mem {node : Node} {nodes : List Node} (h : node ∈ nodes) :
    ∀ e ∈ node.elements, e ∈ Node.elementsOf nodes := by
  intro e he
  rw [Node.elementsOf_eq_flatMap]
  exact List.mem_flatMap.2 ⟨node, h, he⟩

theorem eq_node_of_element? {node : Node} {e : Element} (h : node.element? = some e) :
    node = e.node := by
  cases node with
  | element name bindings attributes children =>
      obtain rfl := Option.some.inj h
      rfl
  | _ => exact nomatch h

/-- A place inside is that of a child of an element. -/
theorem exists_of_child? {place next : Place} {index : Nat} (h : place.child? index = some next) :
    ∃ e : Element, place.node = e.node ∧ next.outer = Scope.enter e.bindings place.outer ∧
      next.node ∈ e.children := by
  obtain ⟨node, hNode, rfl⟩ := Option.map_eq_some_iff.1 h
  obtain ⟨outer, own⟩ := place
  cases own with
  | element name bindings attributes children =>
      exact ⟨⟨name, bindings, attributes, children⟩, rfl, rfl,
        (List.mem_filter.1 (List.mem_of_getElem? hNode)).1⟩
  | _ => exact nomatch hNode

theorem elements_child {place next : Place} {index : Nat} (h : place.child? index = some next) :
    ∀ e ∈ next.node.elements, e ∈ place.node.elements := by
  obtain ⟨e, hPlace, -, hChild⟩ := exists_of_child? h
  intro inner hInner
  rw [hPlace, elements_of_element? (Node.element?_node e)]
  exact List.mem_cons_of_mem _ (subset_elements_of_mem hChild inner hInner)

/-- What a place has around it and in it comes from the document. -/
structure Place.Within (elements : List Element) (place : Place) : Prop where
  node : ∀ e ∈ place.node.elements, e ∈ elements
  outer : ∀ b ∈ place.outer, ∃ e ∈ elements, b ∈ e.bindings

theorem mem_of_mem_enter {b : Binding} {own : List Binding} {outer : Scope}
    (h : b ∈ Scope.enter own outer) : b ∈ own ∨ b ∈ outer :=
  (List.mem_append.1 h).imp id fun h => (List.mem_filter.1 h).1

theorem Place.Within.element {elements : List Element} {place : Place}
    (hw : place.Within elements) {e : Element} (he : place.node.element? = some e) :
    e ∈ elements := by
  refine hw.node e ?_
  rw [elements_of_element? he]
  exact List.mem_cons_self ..

theorem Place.Within.child {elements : List Element} {place next : Place}
    (hw : place.Within elements) {index : Nat} (h : place.child? index = some next) :
    next.Within elements := by
  refine ⟨fun e he => hw.node e (elements_child h e he), fun b hb => ?_⟩
  obtain ⟨e, hPlace, hOuter, -⟩ := exists_of_child? h
  rw [hOuter] at hb
  rcases mem_of_mem_enter hb with hOwn | hAround
  · exact ⟨e, hw.element (hPlace ▸ Node.element?_node e), hOwn⟩
  · exact hw.outer b hAround

theorem Place.Within.follow {elements : List Element} {place next : Place}
    (hw : place.Within elements) {path : List Nat} (h : place.follow? path = some next) :
    next.Within elements := by
  induction path generalizing place with
  | nil => exact Option.some.inj h ▸ hw
  | cons index path ih =>
      obtain ⟨middle, hMiddle, hRest⟩ := Option.bind_eq_some_iff.1 h
      exact ih (hw.child hMiddle) hRest

/-- Every place of a document is within it. -/
theorem within_of_follow? {root : Element} {path : List Nat} {place : Place}
    (h : (Place.ofRoot root).follow? path = some place) : place.Within root.elements := by
  refine Place.Within.follow ⟨?_, by simp [Place.ofRoot]⟩ h
  rw [Place.ofRoot, elements_of_element? (Node.element?_node root)]
  exact fun _ he => he

/-- The bindings around a place are those of elements. -/
theorem Place.Within.named {elements : List Element} {place : Place} (hw : place.Within elements)
    (h : ∀ e ∈ elements, e.Named) : ∀ b ∈ place.outer, b.Named := by
  intro b hb
  obtain ⟨e, he, hOwn⟩ := hw.outer b hb
  exact (h e he).bindings b hOwn

end SvgBuilder.Markup
