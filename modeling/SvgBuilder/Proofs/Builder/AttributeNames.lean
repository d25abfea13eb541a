import SvgBuilder.Builder.AttributeMap
import SvgBuilder.Proofs.Markup.Scopes
import SvgBuilder.Proofs.OrderedMap

/-!
# Attributes under flat names

The attributes of an element are kept under names without namespaces: a prefix that stands for the
namespace, a colon and the local part.  Read in the scope of the element, such a name is the name of
the attribute again.  So different attributes have different flat names, and none of them takes the
place of another one in the map.

This is true as long as the name of an attribute is read back from its notation with braces as it
is.  Where the namespace holds a closing brace, the rest of it goes on in the local part, and what
is taken for the namespace is not what the prefix stands for.

## Main results

* `Scope.nameOf_qualified`: a flat name is read as the name that it is made of.
* `attributeMap_eq_eraseDups`: the entries of the map are the attributes.
* `attributeMap_keeps_attributes`: no attribute of a document is lost, and each keeps its meaning,
  exactly if no namespace has gone on in a local part.
-/

namespace SvgBuilder

open SvgBuilder.Markup

/-! ## Prefixes for namespaces -/

namespace Markup

/-- Whether a prefix is the one that is written for a namespace: the fixed one, or one that the
scope binds to it. -/
def Scope.Writes (scope : Scope) (label uri : String) : Prop :=
  if uri = markupSpace then label = "xml" else label ≠ "" ∧ ⟨some label, uri⟩ ∈ scope

variable {scope : Scope}

theorem Scope.labelFor?_eq_some {label uri : String} (h : scope.labelFor? uri = some label) :
    label ≠ "" ∧ ⟨some label, uri⟩ ∈ scope := by
  obtain ⟨b, hb, hLabel⟩ := List.exists_of_findSome?_eq_some h
  obtain ⟨label', uri'⟩ := b
  cases label' with
  | none => exact nomatch hLabel
  | some label' =>
    dsimp only at hLabel
    split at hLabel
    · next hBoth =>
      obtain rfl := Option.some.inj hLabel
      obtain ⟨hNe, rfl⟩ := hBoth
      exact ⟨hNe, hb⟩
    · exact nomatch hLabel

theorem Scope.IsProper.labelFor?_markupSpace (h : scope.IsProper) :
    Markup.labelFor? scope markupSpace = some "xml" := by
  have hNone : scope.labelFor? markupSpace = none := by
    rw [Option.eq_none_iff_forall_ne_some]
    intro label hLabel
    exact (h.bindings _ (labelFor?_eq_some hLabel).2).uri rfl
  have hKnown : (knownSpaces.find? (·.2 = markupSpace)).map (·.1) = some "xml" := by decide
  rw [Markup.labelFor?, hNone]
  exact hKnown

/-- A namespace that the scope binds a prefix to is written with such a prefix. -/
theorem Scope.labelFor?_of_mem {label uri : String} (h : ⟨some label, uri⟩ ∈ scope)
    (hNe : label ≠ "") : ∃ found, Markup.labelFor? scope uri = some found ∧ found ≠ "" ∧
      ⟨some found, uri⟩ ∈ scope := by
  have hSome : (scope.labelFor? uri).isSome := by
    rw [Scope.labelFor?, List.findSome?_isSome_iff]
    exact ⟨_, h, by simp [hNe]⟩
  obtain ⟨found, hFound⟩ := Option.isSome_iff_exists.1 hSome
  refine ⟨found, ?_, labelFor?_eq_some hFound⟩
  rw [Markup.labelFor?, hFound]
  rfl

theorem ne_empty_of_isLocalName {label : String} (h : isLocalName label.toList = true) :
    label ≠ "" := by
  rintro rfl
  exact nomatch h

/-- The namespace of a settled name has a prefix that stands for it. -/
theorem Scope.IsProper.exists_label (h : scope.IsProper) {label uri : String}
    (hUri : spaceOf? scope label = some uri) :
    ∃ found, Markup.labelFor? scope uri = some found ∧ isLocalName found.toList = true ∧
      spaceOf? scope found = some uri ∧ scope.Writes found uri := by
  by_cases hMarkup : uri = markupSpace
  · subst hMarkup
    exact ⟨"xml", h.labelFor?_markupSpace, by decide +kernel, rfl, by simp [Scope.Writes]⟩
  · have hFree : label ≠ "xml" := by
      rintro rfl
      exact hMarkup (Option.some.inj hUri).symm
    rw [spaceOf?, if_neg hFree, h.uri?_eq_some_iff] at hUri
    have hLabel := ((h.bindings _ hUri).label label rfl).1
    obtain ⟨found, hFound, hNe, hMem⟩ := labelFor?_of_mem hUri (ne_empty_of_isLocalName hLabel)
    obtain ⟨hLocal, hFree⟩ := (h.bindings _ hMem).label found rfl
    refine ⟨found, hFound, hLocal, ?_, ?_⟩
    · rw [spaceOf?, if_neg hFree, h.uri?_eq_some_iff]
      exact hMem
    · rw [Scope.Writes, if_neg hMarkup]
      exact ⟨hNe, hMem⟩

/-- Whether a flat name is one of a name: the local part alone, or behind a prefix that is written
for the namespace. -/
def Scope.Spells (scope : Scope) (name : Name) (key : String) : Prop :=
  match name.space with
  | none => key = name.localName
  | some uri => ∃ label, scope.Writes label uri ∧ key = label ++ ":" ++ name.localName

theorem Scope.IsProper.spells_qualified (h : scope.IsProper) {name : Name}
    (hName : scope.Settles name) : scope.Spells name (qualified scope name) := by
  cases hName with
  | plain written hPlain => exact qualified_plain scope _
  | spaced label l uri hl hUri =>
    obtain ⟨found, hFound, -, -, hWrites⟩ := h.exists_label hUri
    refine ⟨found, hWrites, ?_⟩
    simp only [qualified, hFound]

/-- What is written for a namespace holds no brace. -/
theorem Scope.IsProper.not_mem_of_writes (h : scope.IsProper) {label uri : String}
    (hWrites : scope.Writes label uri) : '\x7d' ∉ label.toList := by
  unfold Scope.Writes at hWrites
  split at hWrites
  · subst hWrites
    decide
  · have hLocal := ((h.bindings _ hWrites.2).label label rfl).1
    exact not_mem_of_isNameText (isNameText_of_isLocalName hLocal)

theorem Scope.IsProper.not_mem_of_spells (h : scope.IsProper) {name : Name} {key : String}
    (hKey : scope.Spells name key) (hBrace : '\x7d' ∉ name.localName.toList) :
    '\x7d' ∉ key.toList := by
  unfold Scope.Spells at hKey
  split at hKey
  · rwa [hKey]
  · obtain ⟨label, hWrites, rfl⟩ := hKey
    have hLabel := h.not_mem_of_writes hWrites
    simp [hLabel, hBrace]

theorem mem_qualified {name : Name} {c : Char} (h : c ∈ name.localName.toList) :
    c ∈ (qualified scope name).toList := by
  unfold qualified
  split
  · exact h
  · split
    · simp [h]
    · exact h

/-! ## Reading flat names -/

/-- The name that a flat name stands for in a scope. -/
def Scope.nameOf (scope : Scope) (key : String) : Name :=
  match QualifiedName.ofName? key.toList with
  | some ⟨some label, l⟩ =>
    match spaceOf? scope label with
    | some uri => ⟨some uri, l⟩
    | none => ⟨none, key⟩
  | _ => ⟨none, key⟩

/-- A flat name is read as the name that it is made of. -/
theorem Scope.nameOf_qualified (h : scope.IsProper) {name : Name} (hName : scope.Settles name) :
    scope.nameOf (qualified scope name) = name := by
  cases hName with
  | plain written hPlain =>
    rw [qualified_plain, Scope.nameOf, String.toList_ofList]
    split
    · next label l hLabelled => rw [hPlain label l hLabelled]
    · rfl
  | spaced label l uri hl hUri =>
    obtain ⟨found, hFound, hLocal, hSpace, -⟩ := h.exists_label hUri
    have hKey : qualified scope ⟨some uri, l⟩ = found ++ ":" ++ l := by
      simp only [qualified, hFound]
    have hParts : QualifiedName.ofName? (found ++ ":" ++ l).toList = some ⟨some found, l⟩ := by
      have hText : (found ++ ":" ++ l).toList = found.toList ++ ':' :: l.toList := by simp
      rw [hText, QualifiedName.ofName?_labelled hLocal hl, String.ofList_toList,
        String.ofList_toList]
    simp only [hKey, Scope.nameOf, hParts, hSpace]

/-- Different names have different flat names. -/
theorem Scope.qualified_injective (h : scope.IsProper) {a b : Name} (ha : scope.Settles a)
    (hb : scope.Settles b) (hKey : qualified scope a = qualified scope b) : a = b := by
  rw [← Scope.nameOf_qualified h ha, ← Scope.nameOf_qualified h hb, hKey]

end Markup

/-! ## Attribute maps -/

/-- Where different attributes have different flat names, the map has one entry for each attribute
whose flat name is not skipped. -/
theorem attributeMap_eq_eraseDups {scope : Scope} {attributes : List Attribute}
    (h : ∀ a ∈ attributes, ∀ b ∈ attributes,
      qualified scope a.name = qualified scope b.name → a = b) (skipped : List String) :
    attributeMap scope skipped attributes =
      (attributes.eraseDups.map fun a => (qualified scope a.name, a.value)).filter
        fun (key, _) => key ∉ skipped := by
  unfold attributeMap
  rw [OrderedMap.ofPairs_filter (fun key => decide (key ∉ skipped)),
    OrderedMap.ofPairs_map_eq h]

/-- Whether an attribute has a flat name that says what the attribute is: its notation with braces
is that of a name whose local part holds none, and the flat name is one of that name. -/
def Markup.Attribute.KeepsMeaning (scope : Scope) (a : Attribute) : Prop :=
  ∃ name : Name, name.clark = a.name.clark ∧ '\x7d' ∉ name.localName.toList ∧
    scope.Spells name (qualified scope a.name)

/-- Attributes keep their meaning under flat names exactly if no local name comes from behind a
closing brace in a namespace.  Then different attributes have different flat names, each namespace
has a prefix, and the map has one entry for each attribute that is not skipped, in order and with
the value of the attribute. -/
theorem attributeMap_keeps_attributes {bytes : List UInt8} {root : Element}
    (h : readDocument bytes = .ok root) {path : List Nat} {place : Place}
    (hPlace : (Place.ofRoot root).follow? path = some place) {e : Element}
    (he : place.node.element? = some e) :
    ((∀ a ∈ e.attributes, a.KeepsMeaning place.scope) ↔
      ∀ a ∈ e.attributes, '\x7d' ∉ a.name.localName.toList) ∧
    ((∀ a ∈ e.attributes, '\x7d' ∉ a.name.localName.toList) →
      (∀ a ∈ e.attributes, ∀ b ∈ e.attributes,
        qualified place.scope a.name = qualified place.scope b.name → a = b) ∧
      (∀ a ∈ e.attributes, ∀ uri, a.name.space = some uri →
        (labelFor? place.scope uri).isSome) ∧
      ∀ skipped, attributeMap place.scope skipped e.attributes =
        (e.attributes.eraseDups.map fun a => (qualified place.scope a.name, a.value)).filter
          fun (key, _) => key ∉ skipped) := by
  have hScoped := scoped_of_readDocument h path place e hPlace he
  have hScope := (Place.scope_eq_enter he).2
  have hProper : place.scope.IsProper := hScope ▸ hScoped.own.enter hScoped.enclosing
  have hSettled : AreSettled place.scope e.attributes := hScope ▸ hScoped.attributes
  have hSettles : ∀ a ∈ e.attributes, '\x7d' ∉ a.name.localName.toList →
      place.scope.Settles a.name := by
    intro a ha hBrace
    obtain ⟨name, hName, hRead⟩ := hSettled.names a ha
    rw [hRead] at hBrace ⊢
    rwa [Name.reread_eq_self hBrace]
  refine ⟨⟨?_, ?_⟩, fun hUnbroken => ?_⟩
  · intro hKeeps a ha hBrace
    obtain ⟨name, -, hName, hSpells⟩ := hKeeps a ha
    exact hProper.not_mem_of_spells hSpells hName (mem_qualified hBrace)
  · intro hUnbroken a ha
    have hBrace := hUnbroken a ha
    exact ⟨a.name, rfl, hBrace, hProper.spells_qualified (hSettles a ha hBrace)⟩
  · have hInjective : ∀ a ∈ e.attributes, ∀ b ∈ e.attributes,
        qualified place.scope a.name = qualified place.scope b.name → a = b := by
      intro a ha b hb hKey
      have hName := Scope.qualified_injective hProper (hSettles a ha (hUnbroken a ha))
        (hSettles b hb (hUnbroken b hb)) hKey
      exact hSettled.values a ha b hb (hUnbroken a ha) hName
    refine ⟨hInjective, ?_, attributeMap_eq_eraseDups hInjective⟩
    intro a ha uri hSpace
    have hName := hSettles a ha (hUnbroken a ha)
    generalize a.name = name at hName hSpace
    cases hName with
    | plain written hPlain => exact nomatch hSpace
    | spaced label l uri' hl hUri =>
      obtain rfl := Option.some.inj hSpace
      obtain ⟨found, hFound, -⟩ := hProper.exists_label hUri
      rw [hFound]
      rfl

/-- An element with attributes of one local name outside of all namespaces and in two of them, one
of which has two prefixes and is the default namespace as well. -/
def spacedText : String :=
  "<a xmlns='u' xmlns:p='u' xmlns:q='u' xmlns:r='v' lang='1' q:lang='2' r:lang='3' xml:lang='4'/>"

/-- None of the attributes takes the place of another one, and the one that is skipped is left
out. -/
theorem attributeMap_keeps_attributes_spaced : ∃ root, readString spacedText = .ok root ∧
    (∀ a ∈ root.attributes, a.KeepsMeaning (Place.ofRoot root).scope) ∧
    attributeMap (Place.ofRoot root).scope ["r:lang"] root.attributes =
      [("lang", "1"), ("p:lang", "2"), ("xml:lang", "4")] := by
  obtain ⟨root, hRoot, hAll⟩ := exists_of_readsWith (by decide +kernel :
    readsWith (fun root => decide (∀ a ∈ root.attributes, '\x7d' ∉ a.name.localName.toList) &&
      decide ((root.attributes.eraseDups.map fun a =>
        (qualified (Place.ofRoot root).scope a.name, a.value)).filter (fun (key, _) =>
          key ∉ ["r:lang"]) = [("lang", "1"), ("p:lang", "2"), ("xml:lang", "4")]))
      spacedText = true)
  simp only [Bool.and_eq_true, decide_eq_true_eq] at hAll
  obtain ⟨hUnbroken, hEntries⟩ := hAll
  have hKeeps := attributeMap_keeps_attributes hRoot (Place.follow?_nil _)
    (Node.element?_node root)
  refine ⟨root, hRoot, hKeeps.1.2 hUnbroken, ?_⟩
  rw [← hEntries]
  exact (hKeeps.2 hUnbroken).2.2 _

end SvgBuilder
