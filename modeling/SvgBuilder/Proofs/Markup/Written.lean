import SvgBuilder.Proofs.Markup.Extent
import SvgBuilder.Proofs.Markup.Scopes
import SvgBuilder.Proofs.Markup.Tag

/-!
# What becomes of written names

Every tag of a document becomes an element, whose name and the names of whose attributes are those
in the tag: as they are written, or the local part behind a prefix that stands for a namespace.

## Main results

* `yields_resolve_names`: the names in a draft are those of elements of its node.
* `holds_of_parts`: the names in the tags of a document are those of its elements.
-/

namespace SvgBuilder.Markup

open SvgBuilder.Text

/-! ## Names in a scope -/

/-- Whether a name is what a written one stands for in a scope, where a name without a prefix is in
the given namespace. -/
inductive Scope.Expands (scope : Scope) (default : Option String) : List Char → Name → Prop
  | plain (written : List Char) : Expands scope default written ⟨default, String.ofList written⟩
  /-- A name whose prefix stands for nothing keeps it. -/
  | undeclared (written : List Char) : Expands scope default written ⟨none, String.ofList written⟩
  | spaced (label l uri : String) (hl : isLocalName l.toList = true)
    (h : spaceOf? scope label = some uri) :
    Expands scope default (label ++ ":" ++ l).toList ⟨some uri, l⟩

theorem yields_expandName_expands {q : QualifiedName} {written : List Char} (h : q.IsOf written)
    (scope : Scope) (default : Option String) :
    Yields (expandName scope default q) (scope.Expands default written) := by
  obtain ⟨label, l⟩ := q
  cases label with
  | none =>
    have hLocal : l = String.ofList written := by
      rcases h with h | ⟨-, h⟩
      · exact QualifiedName.eq_of_ofName?_plain h
      · exact congrArg QualifiedName.localName h
    rw [hLocal]
    exact Yields.pure (.plain written)
  | some label =>
    have hName : QualifiedName.ofName? written = some ⟨some label, l⟩ := by
      rcases h with h | ⟨-, h⟩
      · exact h
      · simp at h
    obtain ⟨-, hl, hText⟩ := QualifiedName.eq_of_ofName?_labelled hName
    have hWritten : written = (label ++ ":" ++ l).toList := by
      rw [← hText, String.toList_ofList]
    unfold expandName
    dsimp only
    split
    · next uri hUri =>
      rw [hWritten]
      exact Yields.pure (.spaced label l uri hl hUri)
    · refine Yields.after _ fun _ => Yields.pure ?_
      rw [← hText]
      exact .undeclared written

/-- Whether a written name is that of a declaration. -/
def IsDeclaration (written : List Char) : Prop :=
  written = "xmlns".toList ∨ "xmlns:".toList <+: written

instance (written : List Char) : Decidable (IsDeclaration written) :=
  inferInstanceAs (Decidable (_ ∨ _))

theorem isDeclaration_of_declared? {q : QualifiedName} {written : List Char} (h : q.IsOf written)
    {label : Option String} (hDeclared : q.declared? = some label) : IsDeclaration written := by
  unfold QualifiedName.declared? at hDeclared
  split at hDeclared
  · rcases h with h | ⟨-, h⟩
    · have hText := QualifiedName.eq_of_ofName?_plain h
      exact .inl (by rw [hText, String.toList_ofList])
    · have hText := congrArg QualifiedName.localName h
      exact .inl (by rw [show "xmlns" = String.ofList written from hText, String.toList_ofList])
  · next l =>
    rcases h with h | ⟨-, h⟩
    · obtain ⟨-, -, hText⟩ := QualifiedName.eq_of_ofName?_labelled h
      refine .inr ⟨l.toList, ?_⟩
      rw [← String.toList_ofList (l := written), hText]
      simp
    · simp at h
  · cases hDeclared

/-! ## Elements with written names -/

/-- Whether an element has the names in a tag, in the scope around it. -/
structure Element.Has (e : Element) (outer : Scope) (names : TagNames) : Prop where
  name : ∃ read, (Scope.enter e.bindings outer).Expands
    (defaultSpace (Scope.enter e.bindings outer)) names.name read ∧ e.name = read.reread
  attributes : ∀ written ∈ names.attributes, IsDeclaration written ∨ ∃ a ∈ e.attributes,
    ∃ read, (Scope.enter e.bindings outer).Expands none written read ∧ a.name = read.reread

/-- Whether a condition holds of some element of a subtree and the scope around it. -/
def Place.Somewhere (P : Scope → Element → Prop) (place : Place) : Prop :=
  ∃ path inner e, place.follow? path = some inner ∧ inner.node.element? = some e ∧ P inner.outer e

/-- Whether an element at a place or below it has the names in a tag. -/
abbrev Place.Has (place : Place) (names : TagNames) : Prop :=
  place.Somewhere fun outer e => e.Has outer names

theorem not_isText_of_follow? {outer : Scope} {node : Node} {path : List Nat} {inner : Place}
    {e : Element} (h : Place.follow? path ⟨outer, node⟩ = some inner)
    (he : inner.node.element? = some e) : node.isText = false := by
  cases node with
  | text content =>
    cases path with
    | nil =>
      obtain rfl := Option.some.inj h
      cases he
    | cons index path =>
      obtain ⟨next, hNext, -⟩ := Option.bind_eq_some_iff.1 h
      simp [Place.child?, Node.countedChildren, Node.children] at hNext
  | _ => rfl

/-- What holds somewhere in a child holds somewhere in the element. -/
theorem Place.Somewhere.of_child {P : Scope → Element → Prop} {outer : Scope} {e : Element}
    {node : Node} (hNode : node ∈ e.children)
    (h : Place.Somewhere P ⟨Scope.enter e.bindings outer, node⟩) :
    Place.Somewhere P ⟨outer, e.node⟩ := by
  obtain ⟨path, inner, e', hInner, he', hHolds⟩ := h
  have hCounted : node ∈ e.node.countedChildren :=
    List.mem_filter.2 ⟨hNode, by simp [not_isText_of_follow? hInner he']⟩
  obtain ⟨index, hIndex⟩ := List.getElem?_of_mem hCounted
  refine ⟨index :: path, inner, e', ?_, he', hHolds⟩
  rw [Place.follow?, Place.child?, hIndex]
  exact hInner

mutual

/-- Every element of a subtree is somewhere in it. -/
theorem somewhere_of_mem_elements {e : Element} (outer : Scope) : (node : Node) →
    e ∈ node.elements → Place.Somewhere (fun _ other => other = e) ⟨outer, node⟩
  | .element name bindings attributes children, h => by
    rw [Node.elements] at h
    rcases List.mem_cons.1 h with rfl | hInside
    · exact ⟨[], _, _, rfl, rfl, rfl⟩
    · obtain ⟨node, hNode, hSomewhere⟩ :=
        somewhere_of_mem_elementsOf (Scope.enter bindings outer) children hInside
      exact Place.Somewhere.of_child (e := ⟨name, bindings, attributes, children⟩) hNode hSomewhere
  | .text _, h | .comment _, h | .instruction _ _, h | .reference _, h =>
    absurd h (by simp [Node.elements])

theorem somewhere_of_mem_elementsOf {e : Element} (outer : Scope) : (nodes : List Node) →
    e ∈ Node.elementsOf nodes →
      ∃ node ∈ nodes, Place.Somewhere (fun _ other => other = e) ⟨outer, node⟩
  | [], h => absurd h (by simp [Node.elementsOf])
  | node :: nodes, h => by
    rw [Node.elementsOf] at h
    rcases List.mem_append.1 h with hFirst | hRest
    · exact ⟨node, List.mem_cons_self, somewhere_of_mem_elements outer node hFirst⟩
    · obtain ⟨other, hOther, hSomewhere⟩ := somewhere_of_mem_elementsOf outer nodes hRest
      exact ⟨other, List.mem_cons_of_mem _ hOther, hSomewhere⟩

end

/-! ## Resolving -/

theorem Yields.mapM_mem {α β : Type} {f : α → Reading β} {as : List α} {P : α → β → Prop}
    (h : ∀ a ∈ as, Yields (f a) (P a)) :
    Yields (as.mapM f) fun bs => ∀ a ∈ as, ∃ b ∈ bs, P a b := by
  induction as with
  | nil => exact Yields.pure (by simp)
  | cons a as ih =>
    rw [List.mapM_cons]
    refine (h a (by simp)).bind fun b hb => ?_
    refine (ih fun a' ha' => h a' (by simp [ha'])).bind fun bs hbs => Yields.pure fun a' ha' => ?_
    rcases List.mem_cons.1 ha' with rfl | ha'
    · exact ⟨b, by simp, hb⟩
    · obtain ⟨b', hb', hP⟩ := hbs a' ha'
      exact ⟨b', by simp [hb'], hP⟩

theorem yields_takeAttributes_names (around : Surroundings) (bindings : List Binding)
    (attributes : List DraftAttribute) :
    Yields (takeAttributes around bindings attributes) fun r =>
      ∀ a ∈ attributes, IsDeclaration a.name ∨ ∃ o ∈ r.2, o.1.IsOf a.name := by
  induction attributes generalizing bindings with
  | nil => exact Yields.pure (by simp)
  | cons a attributes ih =>
    have hDeclaration (ha : IsDeclaration a.name) (bindings : List Binding) :
        Yields (takeAttributes around bindings attributes) fun r =>
          ∀ b ∈ a :: attributes, IsDeclaration b.name ∨ ∃ o ∈ r.2, o.1.IsOf b.name := by
      refine (ih bindings).imp fun r hr b hb => ?_
      rcases List.mem_cons.1 hb with rfl | hb
      · exact .inl ha
      · exact hr b hb
    unfold takeAttributes
    refine (yields_qualify_isOf a.name).bind fun q hq => ?_
    split
    · next label hLabel =>
      have ha := isDeclaration_of_declared? hq hLabel
      refine Yields.after _ fun uri => Yields.after _ fun made => ?_
      split
      · exact Yields.after _ fun more => hDeclaration ha more
      · exact hDeclaration ha bindings
    · have hOthers : Yields (do
          let r ← takeAttributes around bindings attributes
          pure (r.1, (q, a.value) :: r.2)) fun r =>
            ∀ b ∈ a :: attributes, IsDeclaration b.name ∨ ∃ o ∈ r.2, o.1.IsOf b.name := by
        refine (ih bindings).bind fun r hr => Yields.pure fun b hb => ?_
        rcases List.mem_cons.1 hb with rfl | hb
        · exact .inr ⟨_, List.mem_cons_self, hq⟩
        · refine (hr b hb).imp id ?_
          rintro ⟨o, ho, hName⟩
          exact ⟨o, List.mem_cons_of_mem _ ho, hName⟩
      exact Yields.after _ fun _ => Yields.optional fun _ => hOthers

/-- Every attribute has the name that is written, read back. -/
theorem yields_finishAttributes_names {around : Surroundings} (hDocument : around.inEntity = false)
    (written : List WrittenAttribute) :
    Yields (finishAttributes around written) fun r =>
      ∀ a ∈ written, ∃ b ∈ r, b.name = a.name.reread := by
  unfold finishAttributes
  rw [hDocument]
  have hFinish (a : WrittenAttribute) (_ : a ∈ written) :
      Yields (finishAttribute around.declarations a) fun b => b.name = a.name := by
    unfold finishAttribute
    exact Yields.after _ fun s => Yields.optional fun _ => Yields.pure rfl
  refine (Yields.mapM_mem hFinish).bind fun finished hFinished => Yields.pure fun a ha => ?_
  obtain ⟨b, hb, hName⟩ := hFinished a ha
  exact ⟨_, List.mem_map.2 ⟨b, hb, rfl⟩, by simp [Attribute.reread, hName]⟩

/-- Every attribute is named by what its written name stands for. -/
theorem yields_expandNames {scope : Scope} (others : List (QualifiedName × List Piece)) :
    Yields (others.mapM fun (q, value) => do
      pure (⟨q, ← expandName scope none q, value⟩ : WrittenAttribute)) fun written =>
        ∀ o ∈ others, ∃ a ∈ written, ∀ name, o.1.IsOf name → scope.Expands none name a.name := by
  refine Yields.mapM_mem fun o _ => ?_
  have hExpand : Yields (expandName scope none o.1) fun read =>
      ∀ name, o.1.IsOf name → scope.Expands none name read :=
    fun s r hr name hName => yields_expandName_expands hName scope none s r hr
  exact hExpand.bind fun read hRead => Yields.pure hRead

mutual

/-- The names in a draft are those of elements of its node. -/
theorem yields_resolve_names {around : Surroundings} (hDocument : around.inEntity = false)
    (scope : Scope) (depth : Nat) : (draft : Draft) →
    Yields (Draft.resolve around scope depth draft) fun node =>
      ∀ names ∈ draft.names, Place.Has ⟨scope, node⟩ names
  | .element name attributes children => by
    unfold Draft.resolve
    refine (yields_qualify_isOf name).bind fun q hq => ?_
    refine (yields_takeAttributes_names around [] attributes).bind fun r hr => ?_
    obtain ⟨bindings, others⟩ := r
    dsimp only
    refine (yields_expandNames others).bind fun written hWritten => Yields.after _ fun _ => ?_
    refine (yields_expandName_expands hq _ _).bind fun read hRead => ?_
    refine (yields_finishAttributes_names hDocument written).bind fun finished hFinished => ?_
    refine (yields_resolveAll_names hDocument _ _ children).bind fun nodes hNodes => ?_
    refine Yields.pure fun names hNames => ?_
    rw [Draft.names] at hNames
    rcases List.mem_cons.1 hNames with rfl | hNames
    · refine ⟨[], _, ⟨read.reread, bindings, finished, nodes⟩, rfl, rfl, ⟨read, hRead, rfl⟩, ?_⟩
      intro name hName
      obtain ⟨a, ha, rfl⟩ := List.mem_map.1 hName
      refine (hr a ha).imp id fun ⟨o, ho, hOf⟩ => ?_
      obtain ⟨w, hw, hExpands⟩ := hWritten o ho
      obtain ⟨b, hb, hReread⟩ := hFinished w hw
      exact ⟨b, hb, w.name, hExpands a.name hOf, hReread⟩
    · obtain ⟨node, hNode, hHas⟩ := hNodes names hNames
      exact Place.Somewhere.of_child (e := ⟨read.reread, bindings, finished, nodes⟩) hNode hHas
  | .text _ | .comment _ | .instruction _ _ | .reference _ =>
    fun _ _ _ _ hNames => absurd hNames (by simp [Draft.names])

theorem yields_resolveAll_names {around : Surroundings} (hDocument : around.inEntity = false)
    (scope : Scope) (depth : Nat) : (drafts : List Draft) →
    Yields (resolveAll around scope depth drafts) fun nodes =>
      ∀ names ∈ Draft.namesOf drafts, ∃ node ∈ nodes, Place.Has ⟨scope, node⟩ names
  | [] => fun _ _ _ _ hNames => absurd hNames (by simp [Draft.namesOf])
  | draft :: drafts => by
    unfold resolveAll
    refine (yields_resolve_names hDocument scope depth draft).bind fun node hNode => ?_
    refine (yields_resolveAll_names hDocument scope depth drafts).bind fun nodes hNodes => ?_
    refine Yields.pure fun names hNames => ?_
    rw [Draft.namesOf] at hNames
    rcases List.mem_append.1 hNames with hNames | hNames
    · exact ⟨node, List.mem_cons_self, hNode names hNames⟩
    · obtain ⟨other, hOther, hHas⟩ := hNodes names hNames
      exact ⟨other, List.mem_cons_of_mem _ hOther, hHas⟩

end

/-! ## Reading documents -/

/-- Whether a reading gives one result at most. -/
def Determined {α : Type} (x : Reading α) : Prop := ∀ a b, Gives x a → Gives x b → a = b

namespace Determined

variable {α β : Type} {x : Reading α} {f : α → Reading β}

theorem lift (x : Except Fault α) : Determined (liftM x) := by
  intro a b ha hb
  exact Except.ok.inj ((Gives.lift ha).symm.trans (Gives.lift hb))

theorem pure (a : α) : Determined (Pure.pure a) :=
  fun _ _ hb hc => (Gives.pure hb).symm.trans (Gives.pure hc)

theorem bind (hx : Determined x) (hf : ∀ a, Determined (f a)) : Determined (x >>= f) := by
  intro b b' h h'
  obtain ⟨a, ha, hb⟩ := Gives.bind h
  obtain ⟨a', ha', hb'⟩ := Gives.bind h'
  rw [hx a' a ha' ha] at hb'
  exact hf a b b' hb hb'

/-- Notes give nothing. -/
theorem unit (x : Reading Unit) : Determined x := fun _ _ _ _ => rfl

end Determined

theorem determined_skipInstruction (s : List Char) : Determined (skipInstruction s) :=
  (Determined.lift _).bind fun _ => (Determined.unit _).bind fun _ => Determined.pure _

theorem determined_skipMisc (steps : Nat) (s : List Char) : Determined (skipMisc steps s) := by
  induction steps generalizing s with
  | zero => exact fun a b ha _ => ha.not_throw.elim
  | succ steps ih =>
    unfold skipMisc
    dsimp only
    split
    · exact (Determined.lift _).bind fun _ => ih _
    · split
      · exact (determined_skipInstruction _).bind fun _ => ih _
      · exact Determined.pure _

/-- Where a prolog without a document type declaration ends, the root element begins. -/
theorem eq_of_hasProlog {heading : Heading} {s after rest behind : List Char} {d : Declarations}
    {c : Char} {x : List Char} (hStart : rest = '<' :: c :: x) (hc : isNameStart c = true)
    (h : HasProlog s [] rest) (hHeading : readHeading? s = .ok (heading, after))
    (hRead : Gives (readProlog heading.standalone after) (d, behind)) : behind = rest := by
  generalize hDoctype : ([] : List Char) = doctype at h
  cases h with
  | bare hFirst hMisc =>
    obtain ⟨rfl, rfl⟩ := Prod.mk.inj (Except.ok.inj (hFirst.symm.trans hHeading))
    obtain ⟨t, hSkip, hRead⟩ := Gives.bind hRead
    obtain rfl := determined_skipMisc _ _ _ _ hSkip hMisc
    have hOpening : behind? "<!DOCTYPE" t = none := by
      rw [Option.eq_none_iff_forall_ne_some]
      intro u hu
      have hText := hStart.symm.trans (behind?_eq_some_iff.1 hu)
      obtain rfl : c = '!' := (List.cons.inj (List.cons.inj hText).2).1
      exact absurd hc (by decide)
    rw [hOpening] at hRead
    exact (Prod.mk.inj (Gives.pure hRead)).2.symm
  | typed => exact absurd hDoctype (by simp)

/-- The names in the tags of a document are those of its elements. -/
theorem holds_of_parts {prolog epilog : List Char} {tags : RootTag} {root : Element}
    (hParts : Parts prolog [] tags.text epilog)
    (h : readCharacters (prolog ++ tags.text ++ epilog) = .ok root) :
    ∀ tag ∈ tags.tags, (Place.ofRoot root).Has tag.names := by
  unfold readCharacters at h
  split at h
  · obtain ⟨p, hRun, -⟩ := isAccepted_of_accept h
    have hRead : Gives (readAll (prolog ++ tags.text ++ epilog)) root := ⟨_, p, hRun⟩
    rw [readAll_eq] at hRead
    obtain ⟨⟨heading, after⟩, hHeading, hRead⟩ := Gives.bind hRead
    obtain ⟨d, rest, draft, behind, hProlog, hRoot, -, hNode⟩ := gives_readBehind hRead
    obtain ⟨c, x, hStart, hc⟩ := hParts.start
    have hRest : rest = tags.text ++ epilog :=
      eq_of_hasProlog (x := x ++ epilog) (by rw [hStart]; rfl) hc hParts.opened
        (Gives.lift hHeading) hProlog
    rw [hRest] at hRoot
    have hNames := (names_readRoot tags epilog _ hRoot).1
    have hResolved := Gives.of_yields (yields_resolve_names rfl [] 0 draft) hNode
    intro tag hTag
    exact hResolved _ (hNames ▸ List.mem_map.2 ⟨tag, hTag, rfl⟩)
  · cases h

end SvgBuilder.Markup
