import Mathlib.Data.List.Nodup
import SvgBuilder.Proofs.Markup.Names
import SvgBuilder.Proofs.Text.Split

/-!
# Scopes of documents

Every element of a document stands in a scope, and the names of its attributes are settled in the
scope that it enters.  An element declares no prefix twice.  The prefix of the markup language and
the namespace of that prefix are fixed, and no declaration binds either of them.

A name in a namespace has the local part that is written, behind a prefix that stands for the
namespace.  Any other name stays as it is written: it has no prefix, or one that is not declared, or
it cannot be taken apart.

## Main results

* `Scope.IsProper.enter`: proper declarations in a proper scope make a proper scope.
* `scoped_of_readDocument`: every element of a document is settled in its scope.
-/

namespace SvgBuilder.Markup

open SvgBuilder.Text

/-! ## Names with a prefix -/

theorem not_mem_colon_of_isLocalName {s : List Char} (h : isLocalName s = true) : ':' ∉ s := by
  cases s with
  | nil => exact nomatch h
  | cons c s =>
    simp only [isLocalName, Bool.and_eq_true, decide_eq_true_eq, List.all_eq_true] at h
    obtain ⟨⟨-, hFirst⟩, hRest⟩ := h
    intro hMem
    rcases List.mem_cons.1 hMem with hc | hc
    · exact hFirst hc.symm
    · exact (hRest _ hc).2 rfl

namespace QualifiedName

theorem ofName?_labelled {p l : List Char} (hp : isLocalName p = true)
    (hl : isLocalName l = true) :
    ofName? (p ++ ':' :: l) = some ⟨some (String.ofList p), String.ofList l⟩ := by
  have hSplit : splitAt ':' (p ++ ':' :: l) = [p, l] := by
    rw [splitAt_append (not_mem_colon_of_isLocalName hp),
      splitAt_eq_singleton (not_mem_colon_of_isLocalName hl)]
  simp [ofName?, hSplit, hp, hl]

/-- A name that has a prefix is the prefix and the local part around a colon. -/
theorem eq_of_ofName?_labelled {name : List Char} {label l : String}
    (h : ofName? name = some ⟨some label, l⟩) :
    isLocalName label.toList = true ∧ isLocalName l.toList = true ∧
      String.ofList name = label ++ ":" ++ l := by
  have hJoin := intercalate_splitAt ':' name
  unfold ofName? at h
  split at h
  · split at h <;> simp at h
  · next p q hSplit =>
    split at h
    · next hBoth =>
      obtain ⟨hp, hq⟩ := Bool.and_eq_true_iff.1 hBoth
      simp only [Option.some.injEq, mk.injEq] at h
      obtain ⟨rfl, rfl⟩ := h
      rw [hSplit] at hJoin
      refine ⟨by simpa using hp, by simpa using hq, ?_⟩
      rw [← hJoin]
      apply String.toList_injective
      simp [List.intercalate]
    · exact nomatch h
  · exact nomatch h

theorem eq_of_ofName?_plain {name : List Char} {l : String} (h : ofName? name = some ⟨none, l⟩) :
    l = String.ofList name := by
  have hJoin := intercalate_splitAt ':' name
  unfold ofName? at h
  split at h
  · next p hSplit =>
    split at h
    · simp only [Option.some.injEq, mk.injEq, true_and] at h
      rw [← h, ← hJoin, hSplit, List.intercalate_singleton]
    · exact nomatch h
  · split at h <;> simp at h
  · exact nomatch h

/-- Whether these are the parts of a name.  A name that cannot be taken apart is all local. -/
def IsOf (q : QualifiedName) (name : List Char) : Prop :=
  ofName? name = some q ∨ ofName? name = none ∧ q = ⟨none, String.ofList name⟩

theorem IsOf.isLocalName_of_labelled {name : List Char} {label l : String}
    (h : (⟨some label, l⟩ : QualifiedName).IsOf name) : isLocalName l.toList = true := by
  rcases h with h | ⟨-, h⟩
  · exact (eq_of_ofName?_labelled h).2.1
  · simp at h

end QualifiedName

/-! ## Proper scopes -/

/-- Whether a binding leaves what is fixed as it is, and its prefix is a local name. -/
structure Binding.IsProper (b : Binding) : Prop where
  label : ∀ label, b.label = some label → isLocalName label.toList = true ∧ label ≠ "xml"
  uri : b.uri ≠ markupSpace

/-- Whether the bindings of a scope are proper and of different prefixes. -/
structure Scope.IsProper (scope : Scope) : Prop where
  labels : (scope.map (·.label)).Nodup
  bindings : ∀ b ∈ scope, b.IsProper

namespace Scope

theorem isProper_nil : IsProper [] := ⟨List.nodup_nil, fun _ hb => absurd hb List.not_mem_nil⟩

/-- Proper declarations in a proper scope make a proper scope. -/
theorem IsProper.enter {own : List Binding} {outer : Scope} (hOwn : IsProper own)
    (hOuter : outer.IsProper) : (Scope.enter own outer).IsProper := by
  constructor
  · rw [Scope.enter, List.map_append, List.nodup_append]
    refine ⟨hOwn.labels, hOuter.labels.sublist (List.filter_sublist.map _), ?_⟩
    intro label hLabel label' hLabel' hEq
    obtain ⟨b, hb, rfl⟩ := List.mem_map.1 hLabel
    obtain ⟨b', hb', rfl⟩ := List.mem_map.1 hLabel'
    have hNew := (List.mem_filter.1 hb').2
    rw [Bool.not_eq_true', List.any_eq_false] at hNew
    exact hNew b hb (by simpa using hEq)
  · intro b hb
    rcases mem_of_mem_enter hb with hb | hb
    · exact hOwn.bindings b hb
    · exact hOuter.bindings b hb

/-- In a proper scope a prefix is bound once. -/
theorem IsProper.eq_of_mem {scope : Scope} (h : scope.IsProper) {b c : Binding} (hb : b ∈ scope)
    (hc : c ∈ scope) (hLabel : b.label = c.label) : b = c :=
  List.inj_on_of_nodup_map h.labels hb hc hLabel

theorem IsProper.uri?_eq_some_iff {scope : Scope} (h : scope.IsProper) {label : Option String}
    {uri : String} : scope.uri? label = some uri ↔ ⟨label, uri⟩ ∈ scope := by
  unfold uri?
  constructor
  · intro hUri
    obtain ⟨b, hb, rfl⟩ := Option.map_eq_some_iff.1 hUri
    have hLabel : b.label = label := by simpa using List.find?_some hb
    subst hLabel
    exact List.mem_of_find?_eq_some hb
  · intro hMem
    have hSome : (scope.find? (·.label = label)).isSome := by
      rw [List.find?_isSome]
      exact ⟨_, hMem, by simp⟩
    obtain ⟨b, hb⟩ := Option.isSome_iff_exists.1 hSome
    have hLabel : b.label = label := by simpa using List.find?_some hb
    obtain rfl := h.eq_of_mem (List.mem_of_find?_eq_some hb) hMem hLabel
    rw [hb]
    rfl

/-! ## Settled names -/

/-- Whether a name of an attribute is settled in a scope. -/
inductive Settles (scope : Scope) : Name → Prop
  /-- A name that stays as it is written. -/
  | plain (written : List Char)
      (h : ∀ label l, QualifiedName.ofName? written = some ⟨some label, l⟩ →
        spaceOf? scope label = none) : Settles scope ⟨none, String.ofList written⟩
  /-- A local part behind a prefix that stands for a namespace. -/
  | spaced (label l uri : String) (hl : isLocalName l.toList = true)
      (h : spaceOf? scope label = some uri) : Settles scope ⟨some uri, l⟩

/-- Whether the namespace of a name, if it has one, is the fixed one or bound in a scope. -/
def Knows (scope : Scope) (name : Name) : Prop :=
  ∀ uri, name.space = some uri → uri = markupSpace ∨ ∃ b ∈ scope, b.uri = uri

theorem exists_of_uri? {scope : Scope} {label : Option String} {uri : String}
    (h : scope.uri? label = some uri) : ∃ b ∈ scope, b.uri = uri := by
  obtain ⟨b, hb, hUri⟩ := Option.map_eq_some_iff.1 h
  exact ⟨b, List.mem_of_find?_eq_some hb, hUri⟩

theorem knows_of_spaceOf? {scope : Scope} {label uri l : String}
    (h : spaceOf? scope label = some uri) : scope.Knows ⟨some uri, l⟩ := by
  intro uri' hUri
  obtain rfl := Option.some.inj hUri
  unfold spaceOf? at h
  split at h
  · exact .inl (Option.some.inj h).symm
  · exact .inr (exists_of_uri? h)

end Scope

theorem yields_qualify_isOf (name : List Char) : Yields (qualify name) fun q => q.IsOf name := by
  unfold qualify
  split
  · next hq => exact Yields.pure (.inl hq)
  · next hq => exact Yields.after _ fun _ => Yields.pure (.inr ⟨hq, rfl⟩)

theorem yields_expandName_settles {q : QualifiedName} {name : List Char} (h : q.IsOf name)
    (scope : Scope) : Yields (expandName scope none q) scope.Settles := by
  obtain ⟨label, l⟩ := q
  cases label with
  | none =>
    refine Yields.pure ?_
    rcases h with h | ⟨h, hq⟩
    · rw [QualifiedName.eq_of_ofName?_plain h]
      exact .plain name fun label l hLabelled => by simp [h] at hLabelled
    · obtain rfl : l = String.ofList name := congrArg QualifiedName.localName hq
      exact .plain name fun label l hLabelled => by simp [h] at hLabelled
  | some label =>
    have hName : QualifiedName.ofName? name = some ⟨some label, l⟩ := by
      rcases h with h | ⟨-, hq⟩
      · exact h
      · simp at hq
    obtain ⟨-, hl, hText⟩ := QualifiedName.eq_of_ofName?_labelled hName
    unfold expandName
    dsimp only
    split
    · next uri hUri => exact Yields.pure (.spaced label l uri hl hUri)
    · next hUri =>
      refine Yields.after _ fun _ => Yields.pure ?_
      rw [← hText]
      refine .plain name fun label' l' hLabelled => ?_
      rw [hName] at hLabelled
      simp only [Option.some.injEq, QualifiedName.mk.injEq] at hLabelled
      rw [← hLabelled.1]
      exact hUri

/-- A name without a prefix is in the default namespace of the scope. -/
theorem yields_expandName_knows (scope : Scope) (q : QualifiedName) :
    Yields (expandName scope (defaultSpace scope) q) scope.Knows := by
  unfold expandName
  split
  · refine Yields.pure fun uri hUri => .inr ?_
    exact Scope.exists_of_uri? (Option.filter_eq_some_iff.1 hUri).1
  · split
    · next uri hUri => exact Yields.pure (Scope.knows_of_spaceOf? hUri)
    · exact Yields.after _ fun _ => Yields.pure fun _ hUri => nomatch hUri

/-! ## Declarations -/

theorem isLocalName_of_declared? {q : QualifiedName} {name : List Char} {label : Option String}
    (h : q.IsOf name) (hDeclared : q.declared? = some label) :
    ∀ l, label = some l → isLocalName l.toList = true := by
  unfold QualifiedName.declared? at hDeclared
  split at hDeclared
  · obtain rfl := Option.some.inj hDeclared
    exact fun _ hl => nomatch hl
  · obtain rfl := Option.some.inj hDeclared
    intro l hl
    obtain rfl := Option.some.inj hl
    exact h.isLocalName_of_labelled
  · exact nomatch hDeclared

/-- What is fixed is not bound. -/
theorem yields_bindingOf_isProper {label : Option String}
    (h : ∀ l, label = some l → isLocalName l.toList = true) (uri : List Char) :
    Yields (bindingOf label uri) fun r => ∀ b, r = some b → b.IsProper := by
  apply yields_bindingOf_of
  intro hFree hAllowed
  constructor
  · intro l hl
    refine ⟨h l hl, ?_⟩
    rintro rfl
    exact hFree hl
  · intro hUri
    have hSpace : String.ofList uri = markupSpace := hUri
    rw [hSpace] at hAllowed
    exact absurd hAllowed (by simp [isForbidden])

theorem ensures_declare_isProper {bindings : List Binding} {binding : Binding}
    (h : Scope.IsProper bindings) (hb : binding.IsProper) :
    Ensures (declare bindings binding) Scope.IsProper := by
  intro more hMore
  refine ⟨declare_nodup h.labels hMore, ?_⟩
  unfold declare at hMore
  split at hMore
  · exact nomatch hMore
  · obtain rfl := Except.ok.inj hMore
    intro b hMem
    rcases List.mem_append.1 hMem with hMem | hMem
    · exact h.bindings b hMem
    · obtain rfl := List.mem_singleton.1 hMem
      exact hb

theorem yields_takeAttributes_isProper (around : Surroundings) (attributes : List DraftAttribute)
    {bindings : List Binding} (h : Scope.IsProper bindings) :
    Yields (takeAttributes around bindings attributes) fun r =>
      Scope.IsProper r.1 ∧ ∀ a ∈ r.2, ∃ name, a.1.IsOf name := by
  refine yields_takeAttributes_of (P := Binding.IsProper) (Q := fun q => ∃ name, q.IsOf name) around
    ?_ (fun _ _ => ensures_declare_isProper) ?_ h
  · rintro q label uri ⟨name, hq⟩ hLabel
    exact yields_bindingOf_isProper (isLocalName_of_declared? hq hLabel) uri
  · intro a _
    exact (yields_qualify_isOf a.name).imp fun q hq => ⟨a.name, hq⟩

/-! ## Attributes -/

/-- A name whose local part holds no closing brace is read back as it is. -/
theorem Name.reread_eq_self {name : Name} (h : '\x7d' ∉ name.reread.localName.toList) :
    name.reread = name := by
  unfold reread at h ⊢
  split
  · rfl
  · next uri hSpace =>
    rw [hSpace] at h
    dsimp only at h
    split
    · rfl
    · next c rest hRest =>
      rw [hRest] at h
      exact absurd (by simp) h

/-- Whether the attributes of an element are settled in a scope.  Attributes of one name are one
attribute. -/
structure AreSettled (scope : Scope) (attributes : List Attribute) : Prop where
  names : ∀ a ∈ attributes, ∃ name, scope.Settles name ∧ a.name = name.reread
  values : ∀ a ∈ attributes, ∀ b ∈ attributes, '\x7d' ∉ a.name.localName.toList →
    a.name = b.name → a = b

theorem Attribute.firstValue_congr {attributes : List Attribute} {a b : Attribute}
    (ha : a ∈ attributes) (h : a.name = b.name) :
    a.firstValue attributes = b.firstValue attributes := by
  have hSome : (attributes.find? (·.name = a.name)).isSome := by
    rw [List.find?_isSome]
    exact ⟨a, ha, by simp⟩
  obtain ⟨first, hFirst⟩ := Option.isSome_iff_exists.1 hSome
  simp only [firstValue, ← h, hFirst, Option.map_some, Option.getD_some]

theorem areSettled_reread {scope : Scope} {attributes : List Attribute}
    (h : ∀ a ∈ attributes, scope.Settles a.name) :
    AreSettled scope (attributes.map fun a => (a.firstValue attributes).reread) := by
  constructor
  · intro b hb
    obtain ⟨a, ha, rfl⟩ := List.mem_map.1 hb
    exact ⟨a.name, h a ha, rfl⟩
  · intro b hb c hc hBrace hName
    obtain ⟨a, ha, rfl⟩ := List.mem_map.1 hb
    obtain ⟨a', ha', rfl⟩ := List.mem_map.1 hc
    have hSame : a.name.reread = a'.name.reread := hName
    have hRead : a.name.reread = a.name := Name.reread_eq_self hBrace
    have hRead' : a'.name.reread = a'.name := Name.reread_eq_self (hSame ▸ hBrace)
    rw [hRead, hRead'] at hSame
    rw [Attribute.firstValue_congr ha hSame]

theorem yields_finishAttributes_settled (around : Surroundings) {scope : Scope}
    {written : List WrittenAttribute} (h : ∀ a ∈ written, scope.Settles a.name) :
    Yields (finishAttributes around written) (AreSettled scope) := by
  refine (yields_finishAttributes_of around h).imp fun r hr => ?_
  obtain ⟨finished, hNames, rfl⟩ := hr
  exact areSettled_reread hNames

/-! ## Everywhere in a document -/

/-- Whether a condition holds of every element of a subtree and the scope around it. -/
def Place.Everywhere (P : Scope → Element → Prop) (place : Place) : Prop :=
  ∀ path inner e, place.follow? path = some inner → inner.node.element? = some e → P inner.outer e

theorem Place.scope_eq_enter {place : Place} {e : Element} (h : place.node.element? = some e) :
    place.node.bindings = e.bindings ∧ place.scope = Scope.enter e.bindings place.outer := by
  obtain ⟨outer, node⟩ := place
  cases node with
  | element name bindings attributes children =>
    obtain rfl := Option.some.inj h
    exact ⟨rfl, rfl⟩
  | _ => exact nomatch h

namespace Place.Everywhere

variable {P : Scope → Element → Prop}

theorem child {place next : Place} (h : place.Everywhere P) {index : Nat}
    (hNext : place.child? index = some next) : next.Everywhere P := by
  intro path inner e hInner he
  refine h (index :: path) inner e ?_ he
  rw [Place.follow?, hNext]
  exact hInner

theorem element {e : Element} {outer : Scope} (h : P outer e)
    (hChildren : ∀ node ∈ e.children, Everywhere P ⟨Scope.enter e.bindings outer, node⟩) :
    Everywhere P ⟨outer, e.node⟩ := by
  intro path inner e' hInner he'
  cases path with
  | nil =>
    obtain rfl := Option.some.inj hInner
    obtain rfl := Option.some.inj he'
    exact h
  | cons index path =>
    obtain ⟨next, hNext, hFollow⟩ := Option.bind_eq_some_iff.1 hInner
    obtain ⟨node, hNode, rfl⟩ := Option.map_eq_some_iff.1 hNext
    have hMem : node ∈ e.children := (List.mem_filter.1 (List.mem_of_getElem? hNode)).1
    exact hChildren node hMem path inner e' hFollow he'

theorem of_no_element {outer : Scope} {node : Node} (h : node.element? = none) :
    Everywhere P ⟨outer, node⟩ := by
  intro path inner e hInner he
  cases path with
  | nil =>
    obtain rfl := Option.some.inj hInner
    exact nomatch h.symm.trans he
  | cons index path =>
    obtain ⟨next, hNext, -⟩ := Option.bind_eq_some_iff.1 hInner
    obtain ⟨inside, hInside, -⟩ := Option.map_eq_some_iff.1 hNext
    cases node with
    | element name bindings attributes children => exact nomatch h
    | _ => exact nomatch hInside

end Place.Everywhere

/-- Whether an element is settled in the scope around it. -/
structure Element.IsScoped (outer : Scope) (e : Element) : Prop where
  enclosing : outer.IsProper
  own : Scope.IsProper e.bindings
  name : ∃ name, (Scope.enter e.bindings outer).Knows name ∧ IsNameText name.localName.toList ∧
    e.name = name.reread
  attributes : AreSettled (Scope.enter e.bindings outer) e.attributes

mutual

theorem yields_resolve_scoped (around : Surroundings) {scope : Scope} (hScope : scope.IsProper)
    (depth : Nat) : (draft : Draft) → draft.Named →
    Yields (Draft.resolve around scope depth draft) fun node =>
      Place.Everywhere Element.IsScoped ⟨scope, node⟩
  | .element name attributes children, h => by
    unfold Draft.resolve
    refine (yields_qualify h.1).bind fun q hq => ?_
    refine (yields_takeAttributes_isProper around attributes Scope.isProper_nil).bind
      fun r hr => ?_
    obtain ⟨bindings, others⟩ := r
    dsimp only
    have hInner : (scope.enter bindings).IsProper := hr.1.enter hScope
    have hWritten : Yields (others.mapM fun (q, value) => do
        pure (⟨q, ← expandName (scope.enter bindings) none q, value⟩ : WrittenAttribute))
        fun written => ∀ a ∈ written, (scope.enter bindings).Settles a.name := by
      refine Yields.mapM fun a ha => ?_
      obtain ⟨name, hName⟩ := hr.2 a ha
      exact (yields_expandName_settles hName _).bind fun expanded hExpanded =>
        Yields.pure hExpanded
    refine hWritten.bind fun written hWritten => Yields.after _ fun _ => ?_
    have hExpand := (yields_expandName_knows (scope.enter bindings) q).and (yields_expandName hq _ _)
    refine hExpand.bind fun expanded hExpanded => ?_
    refine (yields_finishAttributes_settled around hWritten).bind fun finished hFinished => ?_
    refine (yields_resolveAll_scoped around hInner _ children h.2.2).bind fun nodes hNodes => ?_
    have hScoped : Element.IsScoped scope ⟨expanded.reread, bindings, finished, nodes⟩ :=
      ⟨hScope, hr.1, ⟨expanded, hExpanded.1, hExpanded.2, rfl⟩, hFinished⟩
    exact Yields.pure (Place.Everywhere.element hScoped hNodes)
  | .text _, _ => by
    unfold Draft.resolve
    exact Yields.pure (Place.Everywhere.of_no_element rfl)
  | .comment _, _ => by
    unfold Draft.resolve
    exact Yields.pure (Place.Everywhere.of_no_element rfl)
  | .instruction _ _, _ => by
    unfold Draft.resolve
    exact Yields.after _ fun _ => Yields.pure (Place.Everywhere.of_no_element rfl)
  | .reference _, _ => by
    unfold Draft.resolve
    exact Yields.after _ fun _ => Yields.pure (Place.Everywhere.of_no_element rfl)

theorem yields_resolveAll_scoped (around : Surroundings) {scope : Scope}
    (hScope : scope.IsProper) (depth : Nat) : (drafts : List Draft) → AllNamed drafts →
    Yields (resolveAll around scope depth drafts) fun nodes =>
      ∀ node ∈ nodes, Place.Everywhere Element.IsScoped ⟨scope, node⟩
  | [], _ => by
    unfold resolveAll
    exact Yields.pure fun node hNode => absurd hNode List.not_mem_nil
  | draft :: drafts, h => by
    unfold resolveAll
    refine (yields_resolve_scoped around hScope depth draft h.1).bind fun node hNode => ?_
    refine (yields_resolveAll_scoped around hScope depth drafts h.2).bind fun nodes hNodes => ?_
    refine Yields.pure fun other hOther => ?_
    rcases List.mem_cons.1 hOther with rfl | hOther
    · exact hNode
    · exact hNodes other hOther

end

/-- Every element of a document is settled in the scope around it. -/
theorem scoped_of_readDocument {bytes : List UInt8} {root : Element}
    (h : readDocument bytes = .ok root) : (Place.ofRoot root).Everywhere Element.IsScoped := by
  have hRoots : HoldsOfRoots fun root => (Place.ofRoot root).Everywhere Element.IsScoped := by
    intro declarations draft hDraft
    have hResolve := yields_resolve_scoped (Surroundings.ofDocument declarations)
      Scope.isProper_nil 0 draft hDraft
    refine hResolve.imp fun node hNode root hRoot => ?_
    cases node with
    | element name bindings attributes children =>
      obtain rfl := Option.some.inj hRoot
      exact hNode
    | _ => exact nomatch hRoot
  exact ensures_readDocument hRoots bytes root h

end SvgBuilder.Markup
