import SvgBuilder.Comparison.Difference

/-!
# Found names

Whatever the patterns for elements and attributes find has a name with at least one character.  So
two texts can always be compared.

## Main results

* `isNaming_elementPattern`, `isNaming_attributePattern`: what is found has a name.
* `differences?_eq_some`: the comparison of two texts has a result.
-/

namespace SvgBuilder.Comparison

open SvgBuilder.Text

/-- Whether everything that a pattern finds has a name. -/
def IsNaming (pattern : Pattern) : Prop :=
  ∀ before s f, pattern before s = some f → f.name ≠ []

theorem ne_nil_of_nameAt? {goesOn : Char → Bool} {s name rest : List Char}
    (h : nameAt? goesOn s = some (name, rest)) : name ≠ [] := by
  cases s with
  | nil => exact nomatch h
  | cons c s =>
    rw [nameAt?] at h
    split at h
    · obtain ⟨rfl, -⟩ := Prod.mk.inj (Option.some.inj h)
      exact List.cons_ne_nil _ _
    · exact nomatch h

/-- A pattern that looks for what one pattern finds, and then for what another one finds. -/
theorem IsNaming.orElse {p q : Pattern} (hp : IsNaming p) (hq : IsNaming q) :
    IsNaming fun before s => (p before s).orElse fun _ => q before s := by
  intro before s f h
  dsimp only at h
  cases hFirst : p before s with
  | some g =>
    rw [hFirst] at h
    obtain rfl := Option.some.inj h
    exact hp before s g hFirst
  | none =>
    rw [hFirst] at h
    exact hq before s f h

/-! ## Elements -/

theorem isNaming_tagName? : IsNaming tagName? := by
  intro before s f h
  unfold tagName? at h
  split at h
  · split at h
    · next name rest hName =>
      split at h
      · obtain rfl := Option.some.inj h
        exact ne_nil_of_nameAt? hName
      · exact nomatch h
    · exact nomatch h
  · next name rest _ hName =>
    obtain ⟨t, -, hName⟩ := Option.bind_eq_some_iff.1 hName
    split at h
    · obtain rfl := Option.some.inj h
      exact ne_nil_of_nameAt? hName
    · exact nomatch h
  · exact nomatch h

theorem isNaming_callName? : IsNaming callName? := by
  intro before s f h
  unfold callName? at h
  split at h
  · exact nomatch h
  · split at h
    · exact nomatch h
    · split at h
      · next name _ hName =>
        obtain rfl := Option.some.inj h
        exact ne_nil_of_nameAt? hName
      · exact nomatch h

theorem isNaming_elementPattern : IsNaming elementPattern :=
  isNaming_tagName?.orElse isNaming_callName?

/-! ## Attributes -/

theorem isNaming_markupName? : IsNaming markupName? := by
  intro before s f h
  unfold markupName? at h
  split at h
  · exact nomatch h
  · split at h
    · next name _ _ hName =>
      split at h
      · obtain rfl := Option.some.inj h
        exact ne_nil_of_nameAt? hName
      · exact nomatch h
    · exact nomatch h

theorem isNaming_statementName? : IsNaming statementName? := by
  intro before s f h
  unfold statementName? at h
  split at h
  · exact nomatch h
  · next name rest hName =>
    obtain ⟨t, -, hName⟩ := Option.bind_eq_some_iff.1 hName
    split at h
    · obtain rfl := Option.some.inj h
      exact ne_nil_of_nameAt? hName
    · exact nomatch h

/-- Between the quotes any characters may stand, but not none. -/
theorem isNaming_quotedName? : IsNaming quotedName? := by
  intro before s f h
  unfold quotedName? at h
  split at h
  · split at h
    · next name _ _ =>
      split at h
      · exact nomatch h
      · next hEmpty =>
        obtain rfl := Option.some.inj h
        exact fun hNil => hEmpty (List.isEmpty_iff.2 hNil)
    · exact nomatch h
  · exact nomatch h

theorem isNaming_attributePattern : IsNaming attributePattern :=
  (isNaming_markupName?.orElse isNaming_statementName?).orElse isNaming_quotedName?

/-! ## Comparisons -/

theorem IsNaming.not_mem_findings {pattern : Pattern} (h : IsNaming pattern) (s : List Char) :
    [] ∉ findings pattern s := by
  suffices hFrom : ∀ before skip, [] ∉ findingsFrom pattern before skip s from hFrom none 0
  induction s with
  | nil => exact fun _ _ => List.not_mem_nil
  | cons c s ih =>
    intro before skip
    cases skip with
    | succ skip => exact ih (some c) skip
    | zero =>
      rw [findingsFrom]
      split
      · next f hFound =>
        intro hMem
        rcases List.mem_cons.1 hMem with hNil | hMem
        · exact h before (c :: s) f hFound hNil.symm
        · exact ih _ _ hMem
      · exact ih _ _

theorem IsNaming.names?_eq {pattern : Pattern} (h : IsNaming pattern) (s : String) :
    names? pattern s = some (names pattern s) := by
  rw [names?, if_neg]
  intro hAny
  obtain ⟨name, hMem, hEmpty⟩ := List.any_eq_true.1 hAny
  rw [List.isEmpty_iff.1 hEmpty] at hMem
  exact h.not_mem_findings _ hMem

/-- The comparison of two texts has a result. -/
theorem differences?_eq_some (document generated : String) :
    differences? document generated = some (differences document generated) := by
  simp only [differences?, isNaming_elementPattern.names?_eq, isNaming_attributePattern.names?_eq]
  rfl

end SvgBuilder.Comparison
