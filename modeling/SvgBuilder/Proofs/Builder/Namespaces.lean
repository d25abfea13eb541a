import SvgBuilder.Builder.Namespace
import SvgBuilder.Proofs.Diagnostic
import SvgBuilder.Proofs.Markup.Scopes

/-!
# Namespace statements of a document

An element states the bindings that it introduces.  Looking from an element up to the root for the
first statement about a prefix gives what the prefix stands for at the element, so the statements
are all that has to be known of the scopes.  None of them can be left out: what an element states
is not in the scope of its parent.

The argument goes along the path from the root down to the element.  At each step a binding of the
scope is either stated there or comes from the scope around, and then no statement about its prefix
is made there.

## Main results

* `Place.stated_or_outer`: a binding of a scope is stated there or comes from the scope around.
* `nearest_statement_binds`: the statements of a document are complete and minimal.
-/

namespace SvgBuilder

open SvgBuilder.Markup

namespace Markup.Place

/-- The places on a path, from the one that it leads to up to the one where it begins. -/
def upward : List Nat → Place → List Place
  | [], place => [place]
  | index :: path, place =>
    match place.child? index with
    | some next => upward path next ++ [place]
    | none => [place]

/-- The bindings that the element at a place states. -/
def stated (place : Place) : List Binding := introduced place.node.bindings place.outer

/-- Whether the element at a place states a binding of a prefix. -/
def states (label : Option String) (place : Place) : Bool := place.stated.any (·.label = label)

/-- The bindings of a prefix that the element at a place states. -/
def statedOf (label : Option String) (place : Place) : List Binding :=
  place.stated.filter (·.label = label)

theorem states_iff {label : Option String} {place : Place} :
    place.states label = true ↔ ∃ b ∈ place.stated, b.label = label := by
  simp [states]

theorem exists_element_of_child? {place next : Place} {index : Nat}
    (h : place.child? index = some next) :
    ∃ e, place.node.element? = some e ∧ next.outer = place.scope := by
  obtain ⟨e, hPlace, hOuter, -⟩ := exists_of_child? h
  have he : place.node.element? = some e := hPlace ▸ Node.element?_node e
  exact ⟨e, he, hOuter.trans (scope_eq_enter he).2.symm⟩

/-- A binding of a scope is the only one of its prefix that is stated there, or it comes from the
scope around and nothing about its prefix is stated. -/
theorem stated_or_outer {place : Place} {e : Element} (he : place.node.element? = some e)
    (hScoped : e.IsScoped place.outer) {b : Binding} (hb : b ∈ place.scope) (hUri : b.uri ≠ "") :
    (place.states b.label = true ∧ place.statedOf b.label = [b]) ∨
      (place.states b.label = false ∧ b ∈ place.outer) := by
  obtain ⟨hOwn, hScope⟩ := scope_eq_enter he
  have hProper : place.scope.IsProper := hScope ▸ hScoped.own.enter hScoped.enclosing
  have hStated : ∀ c, c ∈ place.stated ↔
      c ∈ place.scope ∧ c.uri ≠ "" ∧ place.outer.uri? c.label ≠ some c.uri := by
    intro c
    rw [stated, mem_introduced_iff, hOwn, hScope]
  have hSame : ∀ c ∈ place.stated, c.label = b.label → c = b := fun c hc hLabel =>
    hProper.eq_of_mem ((hStated c).1 hc).1 hb hLabel
  by_cases hNew : b ∈ place.stated
  · refine .inl ⟨states_iff.2 ⟨b, hNew, rfl⟩, ?_⟩
    have hNodup : (place.statedOf b.label).Nodup := by
      have hSublist : (place.statedOf b.label).Sublist place.scope := by
        rw [statedOf, stated, hOwn, hScope]
        exact List.filter_sublist.trans List.filter_sublist
      exact (List.Nodup.of_map _ hProper.labels).sublist hSublist
    have hMem : ∀ c, c ∈ place.statedOf b.label ↔ c ∈ [b] := by
      intro c
      rw [statedOf, List.mem_filter, decide_eq_true_eq, List.mem_singleton]
      constructor
      · exact fun h => hSame c h.1 h.2
      · rintro rfl
        exact ⟨hNew, rfl⟩
    exact List.perm_singleton.1
      ((List.perm_ext_iff_of_nodup hNodup (List.nodup_singleton b)).2 hMem)
  · refine .inr ⟨?_, ?_⟩
    · rw [Bool.eq_false_iff, ne_eq, states_iff]
      rintro ⟨c, hc, hLabel⟩
      exact hNew (hSame c hc hLabel ▸ hc)
    · by_contra hOuter
      refine hNew ((hStated b).2 ⟨hb, hUri, fun hBound => hOuter ?_⟩)
      exact hScoped.enclosing.uri?_eq_some_iff.1 hBound

/-- Going up from a place, either the first statement about a prefix is the binding that the scope
of the place has, or there is none and the binding comes from around the uppermost place. -/
theorem first_statement_or_outer {path : List Nat} {place last : Place}
    (hScoped : place.Everywhere Element.IsScoped) (hLast : place.follow? path = some last)
    {b : Binding} (hb : b ∈ last.scope) (hUri : b.uri ≠ "") :
    (∃ stating, (upward path place).find? (states b.label) = some stating ∧
        stating.statedOf b.label = [b]) ∨
      ((upward path place).find? (states b.label) = none ∧ b ∈ place.outer) := by
  induction path generalizing place with
  | nil =>
    obtain rfl := Option.some.inj hLast
    have hElement : ∃ e, place.node.element? = some e := by
      cases hNode : place.node with
      | element name bindings attributes children => exact ⟨_, rfl⟩
      | _ => simp [scope, hNode] at hb
    obtain ⟨e, he⟩ := hElement
    rcases stated_or_outer he (hScoped [] place e rfl he) hb hUri with
      ⟨hStates, hOnly⟩ | ⟨hNot, hOuter⟩
    · exact .inl ⟨place, by simp [upward, hStates], hOnly⟩
    · exact .inr ⟨by simp [upward, hNot], hOuter⟩
  | cons index path ih =>
    obtain ⟨next, hNext, hRest⟩ := Option.bind_eq_some_iff.1 hLast
    obtain ⟨e, he, hOuter⟩ := exists_element_of_child? hNext
    have hUpward : upward (index :: path) place = upward path next ++ [place] := by
      simp [upward, hNext]
    rw [hUpward, List.find?_append]
    rcases ih (hScoped.child hNext) hRest with ⟨stating, hFound, hOnly⟩ | ⟨hNone, hScope⟩
    · exact .inl ⟨stating, by rw [hFound, Option.some_or], hOnly⟩
    · -- nothing below speaks of the prefix, so this place decides
      rw [hNone, Option.none_or]
      rw [hOuter] at hScope
      rcases stated_or_outer he (hScoped [] place e rfl he) hScope hUri with
        ⟨hStates, hOnly⟩ | ⟨hNot, hAround⟩
      · exact .inl ⟨place, by simp [hStates], hOnly⟩
      · exact .inr ⟨by simp [hNot], hAround⟩

end Markup.Place

/-- The statements of an element are its bindings, one by one. -/
theorem value_convertNamespaces (own : List Binding) (outer : Scope) :
    (convertNamespaces own outer).value = (introduced own outer).map bindingStatement := by
  rw [convertNamespaces, Noted.value_mapM]
  rfl

/-- The namespace statements of a document are complete and minimal.  Whatever a prefix, or none,
is bound to at an element: going up to the root, the first element with a statement about it states
that binding and no other one of it.  And no element states a binding that the scope of its parent
has. -/
theorem nearest_statement_binds {bytes : List UInt8} {root : Element}
    (h : readDocument bytes = .ok root) {path : List Nat} {place : Place}
    (hPlace : (Place.ofRoot root).follow? path = some place) {e : Element}
    (he : place.node.element? = some e) :
    (∀ label uri, ⟨label, uri⟩ ∈ place.scope → uri ≠ "" →
      ∃ stating, ((Place.ofRoot root).upward path).find? (Place.states label) = some stating ∧
        stating.statedOf label = [⟨label, uri⟩]) ∧
    (∀ outside index parent, path = outside ++ [index] →
      (Place.ofRoot root).follow? outside = some parent →
        ∀ b ∈ place.stated, b ∉ parent.scope) ∧
    (convertNamespaces e.bindings place.outer).value = place.stated.map bindingStatement := by
  have hScoped := scoped_of_readDocument h
  refine ⟨?_, ?_, ?_⟩
  · intro label uri hBound hUri
    rcases Place.first_statement_or_outer hScoped hPlace hBound hUri with hFound | ⟨-, hOuter⟩
    · exact hFound
    · exact absurd hOuter List.not_mem_nil
  · intro outside index parent hPath hParent b hb hOuter
    have hChild : parent.child? index = some place := by
      have hFollow := hPlace
      rw [hPath, Place.follow?_append, hParent] at hFollow
      simpa [Place.follow?] using hFollow
    obtain ⟨-, -, hScope⟩ := Place.exists_element_of_child? hChild
    have hProper : place.outer.IsProper := (hScoped path place e hPlace he).enclosing
    rw [← hScope] at hOuter
    exact uri?_outer_of_mem_introduced hb (hProper.uri?_eq_some_iff.2 hOuter)
  · rw [value_convertNamespaces, Place.stated, (Place.scope_eq_enter he).1]

/-- Three elements that bind the default namespace and a prefix, take the former back, and bind both
again. -/
def reboundText : String :=
  "<a xmlns='v' xmlns:p='u'><b xmlns='' xmlns:p='w'><c xmlns='v' xmlns:p='w'/></b></a>"

/-- The innermost element states the default namespace, which was taken back around it, and not the
prefix, which the element around it has stated. -/
theorem nearest_statement_binds_rebound : ∃ root place e, readString reboundText = .ok root ∧
    (Place.ofRoot root).follow? [0, 0] = some place ∧ place.node.element? = some e ∧
    place.stated = [⟨none, "v"⟩] ∧
    ∃ stating, ((Place.ofRoot root).upward [0, 0]).find? (Place.states (some "p")) = some stating ∧
      stating.statedOf (some "p") = [⟨some "p", "w"⟩] := by
  obtain ⟨root, hRoot, hPlace⟩ := exists_of_readsWith (by decide +kernel :
    readsWith (fun root => ((Place.ofRoot root).follow? [0, 0]).any fun place =>
      place.node.element?.isSome && decide (⟨some "p", "w"⟩ ∈ place.scope) &&
        decide (place.stated = [⟨none, "v"⟩])) reboundText = true)
  obtain ⟨place, hFollow, hPlace⟩ := (Option.any_eq_true _ _).1 hPlace
  simp only [Bool.and_eq_true, decide_eq_true_eq] at hPlace
  obtain ⟨e, he⟩ := Option.isSome_iff_exists.1 hPlace.1.1
  exact ⟨root, place, e, hRoot, hFollow, he, hPlace.2,
    (nearest_statement_binds hRoot hFollow he).1 _ _ hPlace.1.2 (by decide)⟩

end SvgBuilder
