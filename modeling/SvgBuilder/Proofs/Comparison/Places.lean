import SvgBuilder.Proofs.Comparison.Reach

/-!
# What is found at the places of a text

What a pattern finds in a text is what it finds at some place of it.  So it is enough to know what
stands at a place where something is found, and the places of a text that is put together are those
of its parts.

## Main results

* `FindsOnly.forall_mem`, `FindsOnly.append`: what is found in a text, place by place.
* `markupName?_eq_some_iff`, `exists_of_statementName?`, `exists_of_callName?`,
  `exists_of_tagName?`: what stands where something is found.
-/

namespace SvgBuilder.Comparison

open SvgBuilder.Text

variable {pattern : Pattern} {before : Option Char} {s t rest name : List Char} {c : Char}
  {f : Finding}

/-! ## Places of a text -/

theorem lastOf_append (before : Option Char) (s t : List Char) :
    lastOf before (s ++ t) = lastOf (lastOf before s) t := by
  induction s generalizing before with
  | nil => rfl
  | cons c s ih => exact ih _

/-- Whether all that a pattern finds at the places of a text, which a rest follows, has names with a
property. -/
def FindsOnly (pattern : Pattern) (P : List Char → Prop) (before : Option Char)
    (s rest : List Char) : Prop :=
  ∀ a b, s = a ++ b → b ≠ [] → ∀ f, pattern (lastOf before a) (b ++ rest) = some f → P f.name

namespace FindsOnly

variable {P : List Char → Prop}

theorem nil : FindsOnly pattern P before [] rest := by
  intro a b hText hb
  exact absurd (List.append_eq_nil_iff.1 hText.symm).2 hb

theorem append (hs : FindsOnly pattern P before s (t ++ rest))
    (ht : FindsOnly pattern P (lastOf before s) t rest) :
    FindsOnly pattern P before (s ++ t) rest := by
  intro a b hText hb f hFound
  rcases List.append_eq_append_iff.1 hText with ⟨x, rfl, hx⟩ | ⟨x, rfl, rfl⟩
  · rw [lastOf_append] at hFound
    exact ht x b hx hb f hFound
  · by_cases hNil : x = []
    · subst hNil
      rw [List.append_nil] at ht
      exact ht [] t rfl hb f hFound
    · rw [List.append_assoc] at hFound
      exact hs a x rfl hNil f hFound

theorem cons (hc : ∀ f, pattern before (c :: (s ++ rest)) = some f → P f.name)
    (hs : FindsOnly pattern P (some c) s rest) : FindsOnly pattern P before (c :: s) rest := by
  intro a b hText hb f hFound
  cases a with
  | nil =>
    rw [List.nil_append] at hText
    rw [← hText] at hFound
    exact hc f hFound
  | cons d a =>
    obtain ⟨rfl, rfl⟩ := List.cons.inj hText
    exact hs a b rfl hb f hFound

theorem imp {Q : List Char → Prop} (h : FindsOnly pattern P before s rest)
    (hPQ : ∀ name, P name → Q name) : FindsOnly pattern Q before s rest :=
  fun a b hText hb f hFound => hPQ _ (h a b hText hb f hFound)

theorem head (h : FindsOnly pattern P before (c :: s) rest) :
    ∀ f, pattern before (c :: (s ++ rest)) = some f → P f.name :=
  fun f hFound => h [] (c :: s) rfl (List.cons_ne_nil c s) f hFound

theorem tail (h : FindsOnly pattern P before (c :: s) rest) :
    FindsOnly pattern P (some c) s rest := by
  intro a b hText hb f hFound
  exact h (c :: a) b (by rw [hText, List.cons_append]) hb f hFound

/-- What is found in a text is what is found at its places. -/
theorem forall_mem (h : FindsOnly pattern P before s []) (skip : Nat) :
    ∀ name ∈ findingsFrom pattern before skip s, P name := by
  induction s generalizing before skip with
  | nil => exact fun name hName => absurd hName List.not_mem_nil
  | cons c s ih =>
    cases skip with
    | succ skip => exact ih h.tail skip
    | zero =>
      rw [findingsFrom]
      split
      · next f hFound =>
        intro name hName
        rcases List.mem_cons.1 hName with rfl | hName
        · exact h.head f (by rwa [List.append_nil])
        · exact ih h.tail _ name hName
      · exact ih h.tail 0

/-- The places of a text are tried one by one. -/
instance decideAll [DecidablePred P] :
    (before : Option Char) → (s : List Char) → Decidable (FindsOnly pattern P before s [])
  | _, [] => .isTrue nil
  | before, c :: s =>
    have := decideAll (some c) s
    decidable_of_iff
      ((∀ f ∈ pattern before (c :: (s ++ [])), P f.name) ∧ FindsOnly pattern P (some c) s [])
      ⟨fun h => cons h.1 h.2, fun h => ⟨h.head, h.tail⟩⟩

end FindsOnly

/-! ## What stands where something is found -/

theorem nameAt?_eq_some_iff {goesOn : Char → Bool} :
    nameAt? goesOn s = some (name, rest) ↔
      s = name ++ rest ∧ isNameOf goesOn name = true ∧ ∀ c ∈ rest.head?, goesOn c = false := by
  constructor
  · intro h
    cases s with
    | nil => cases h
    | cons c s =>
      rw [nameAt?] at h
      split at h
      · next hc =>
        obtain ⟨rfl, rfl⟩ := Prod.mk.inj (Option.some.inj h)
        refine ⟨by rw [List.cons_append, List.takeWhile_append_dropWhile], ?_, fun d hd => ?_⟩
        · rw [isNameOf, hc, List.all_takeWhile]
          rfl
        · have hDrop := List.head?_dropWhile_not goesOn s
          rw [Option.mem_def.1 hd] at hDrop
          exact hDrop
      · cases h
  · rintro ⟨rfl, hName, hRest⟩
    exact nameAt?_append hName hRest

theorem isInitial_of_isNameOf {goesOn : Char → Bool} (h : isNameOf goesOn (c :: s) = true) :
    isInitial c = true ∧ ∀ d ∈ s, goesOn d = true := by
  obtain ⟨hc, hs⟩ := Bool.and_eq_true_iff.1 h
  exact ⟨hc, List.all_eq_true.1 hs⟩

theorem isAttributeChar_of_isNameOf {goesOn : Char → Bool} (h : isNameOf goesOn name = true)
    (hGoesOn : ∀ c, goesOn c = true → isAttributeChar c = true) :
    ∀ c ∈ name, isAttributeChar c = true := by
  cases name with
  | nil => cases h
  | cons c name =>
    obtain ⟨hc, hName⟩ := isInitial_of_isNameOf h
    intro d hd
    rcases List.mem_cons.1 hd with rfl | hd
    · exact isAttributeChar_of_isInitial hc
    · exact hGoesOn d (hName d hd)

/-- Where markup names an attribute. -/
theorem markupName?_eq_some_iff {width : Nat} :
    markupName? before s = some ⟨name, width⟩ ↔ before.any isAttributeChar = false ∧
      isNameOf isAttributeChar name = true ∧ width = name.length + 2 ∧
        ∃ quote rest, s = name ++ '=' :: quote :: rest ∧ (quote = '\x22' ∨ quote = '\x27') := by
  unfold markupName?
  constructor
  · intro h
    split at h
    · cases h
    · next hBefore =>
      split at h
      · next found quote rest hName =>
        split at h
        · next hQuote =>
          obtain ⟨rfl, rfl⟩ := Finding.mk.inj (Option.some.inj h)
          obtain ⟨hText, hFound, -⟩ := nameAt?_eq_some_iff.1 hName
          exact ⟨by simpa using hBefore, hFound, rfl, quote, rest, hText, hQuote⟩
        · cases h
      · cases h
  · rintro ⟨hBefore, hName, rfl, quote, rest, rfl, hQuote⟩
    have hRead : nameAt? isAttributeChar (name ++ '=' :: quote :: rest) =
        some (name, '=' :: quote :: rest) := by
      refine nameAt?_append hName fun c hc => ?_
      obtain rfl := Option.some.inj hc
      decide
    rw [if_neg (by simp [hBefore]), hRead]
    exact if_pos hQuote

theorem behindBuilder?_eq_some_iff :
    behindBuilder? before s = some t ↔ isWordStart before = true ∧ s = "svg.".toList ++ t := by
  unfold behindBuilder?
  split
  · next h => simp [h, behind?_eq_some_iff]
  · next h => simp [h]

/-- Where a call of the builder is. -/
theorem exists_of_callName? (h : callName? before s = some f) :
    isWordStart before = true ∧ isMemberName f.name = true ∧ f.name ≠ "svgAttr".toList ∧
      ∃ rest, s = "svg.".toList ++ f.name ++ '(' :: rest := by
  unfold callName? at h
  split at h
  · cases h
  · next t hBuilder =>
    obtain ⟨hStart, hText⟩ := behindBuilder?_eq_some_iff.1 hBuilder
    split at h
    · cases h
    · next hOther =>
      split at h
      · next label rest hName =>
        obtain rfl := Option.some.inj h
        obtain ⟨rfl, hLabel, -⟩ := nameAt?_eq_some_iff.1 hName
        refine ⟨hStart, hLabel, ?_, rest, by rw [hText, List.append_assoc]⟩
        rintro rfl
        have hMethod : behind? "svgAttr(" ("svgAttr".toList ++ '(' :: rest) = some rest :=
          behind?_eq_some_iff.2 rfl
        exact hOther (by rw [hMethod]; rfl)
      · cases h

/-- Where a statement is. -/
theorem exists_of_statementName? (h : statementName? before s = some f) :
    isWordStart before = true ∧ isMemberName f.name = true ∧ ∃ blanks rest,
      (∀ c ∈ blanks, isBlank c = true) ∧
        s = "svg.".toList ++ f.name ++ blanks ++ ':' :: '=' :: rest := by
  unfold statementName? at h
  split at h
  · cases h
  · next label behind hName =>
    obtain ⟨t, hBuilder, hRead⟩ := Option.bind_eq_some_iff.1 hName
    obtain ⟨hStart, hText⟩ := behindBuilder?_eq_some_iff.1 hBuilder
    obtain ⟨rfl, hLabel, -⟩ := nameAt?_eq_some_iff.1 hRead
    split at h
    · next rest hSign =>
      obtain rfl := Option.some.inj h
      refine ⟨hStart, hLabel, behind.takeWhile isBlank, rest, ?_, ?_⟩
      · exact List.all_eq_true.1 List.all_takeWhile
      · have hBehind := List.takeWhile_append_dropWhile (p := isBlank) (l := behind)
        rw [hSign] at hBehind
        rw [hText, List.append_assoc, hBehind, List.append_assoc]
    · cases h

/-- Where the method for other attributes is called. -/
theorem opening_of_quotedName? (h : quotedName? before s = some f) : quotedOpening <+: s := by
  unfold quotedName? at h
  split at h
  · split at h
    · next hQuoted =>
      obtain ⟨t, hOpening, -⟩ := Option.bind_eq_some_iff.1 hQuoted
      rw [behind?_eq_some_iff.1 hOpening]
      exact List.prefix_append _ _
    · cases h
  · cases h

/-- Whether the name of a tag may end before a character. -/
def endsTag (c : Char) : Bool := isBlank c || c = '/' || c = '>'

theorem endsTagName_iff : endsTagName s = true ↔ ∃ c t, s = c :: t ∧ endsTag c = true := by
  cases s with
  | nil => simp [endsTagName]
  | cons c s => simp [endsTagName, endsTag]

theorem not_endsTag_of_isAttributeChar (h : isAttributeChar c = true) : endsTag c = false := by
  refine Bool.eq_false_iff.2 fun hEnds => ?_
  simp only [endsTag, Bool.or_eq_true, decide_eq_true_eq] at hEnds
  rcases hEnds with (hBlank | rfl) | rfl
  · rw [not_isAttributeChar_of_isBlank hBlank] at h
    cases h
  · exact absurd h (by decide)
  · exact absurd h (by decide)

/-- Whether a name is a written one, or what stands behind its prefix. -/
def IsLocalPart (name written : List Char) : Prop :=
  written = name ∨ ∃ label, written = label ++ ':' :: name

/-- Where a tag begins. -/
theorem exists_of_tagName? (h : tagName? before s = some f) :
    isNameOf isTagChar f.name = true ∧ ∃ written rest, s = '<' :: (written ++ rest) ∧
      IsLocalPart f.name written ∧ (∀ c ∈ written, isAttributeChar c = true) ∧
        endsTagName rest = true := by
  have hChars {name : List Char} (hName : isNameOf isTagChar name = true) :
      ∀ c ∈ name, isAttributeChar c = true :=
    isAttributeChar_of_isNameOf hName fun c => isAttributeChar_of_isTagChar
  unfold tagName? at h
  split at h
  · next label t hLabel =>
    obtain ⟨u, hOpening, hLabel⟩ := Option.bind_eq_some_iff.1 hLabel
    obtain ⟨rfl, hPrefix, -⟩ := nameAt?_eq_some_iff.1 hLabel
    split at h
    · next name rest hName =>
      split at h
      · next hEnds =>
        obtain rfl := Option.some.inj h
        obtain ⟨rfl, hLocal, -⟩ := nameAt?_eq_some_iff.1 hName
        refine ⟨hLocal, label ++ ':' :: name, rest, ?_, .inr ⟨label, rfl⟩, ?_, hEnds⟩
        · rw [behind?_eq_some_iff.1 hOpening]
          simp
        · intro c hc
          rcases List.mem_append.1 hc with hc | hc
          · exact hChars hPrefix c hc
          · rcases List.mem_cons.1 hc with rfl | hc
            · decide
            · exact hChars hLocal c hc
      · cases h
    · cases h
  · next name rest _ hName =>
    obtain ⟨u, hOpening, hRead⟩ := Option.bind_eq_some_iff.1 hName
    split at h
    · next hEnds =>
      obtain rfl := Option.some.inj h
      obtain ⟨rfl, hLocal, -⟩ := nameAt?_eq_some_iff.1 hRead
      exact ⟨hLocal, name, rest, behind?_eq_some_iff.1 hOpening, .inl rfl, hChars hLocal, hEnds⟩
    · cases h
  · cases h

end SvgBuilder.Comparison
