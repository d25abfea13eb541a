import SvgBuilder.Proofs.Comparison.Pattern

/-!
# What the patterns find in a module

The patterns look at a text from left to right, and what is found at one place is passed over.  So a
builder call or a statement is found where it stands, unless something that is found before it goes
on into it.  That does not happen where the call or the statement begins a line: what begins before
the line has at least one blank in it then, and what stands between the quotes of a call of the
method for other attributes ends on its line.

## Main results

* `mem_findings_call`: calls of elements are found.
* `mem_findings_statement`, `mem_findings_other`: statements are found, by the name of the member or
  by the name that is given to the method for other attributes.
-/

namespace SvgBuilder.Comparison

open SvgBuilder.Text SvgBuilder.Source

/-! ## Looking past a text -/

/-- The character before what stands behind a text. -/
def lastOf (before : Option Char) : List Char → Option Char
  | [] => before
  | c :: s => lastOf (some c) s

/-- Whether nothing that a pattern finds in the first text goes on in the second one. -/
def StopsBefore (pattern : Pattern) (u w : List Char) : Prop :=
  ∀ a b, u = a ++ b → b ≠ [] → ∀ before f, pattern before (b ++ w) = some f → f.width ≤ b.length

/-- What is found at the beginning of a text is found behind another one. -/
theorem mem_findingsFrom_append {pattern : Pattern} {u w name : List Char}
    (h : StopsBefore pattern u w) {before : Option Char} {skip : Nat} (hSkip : skip ≤ u.length)
    (hName : name ∈ findingsFrom pattern (lastOf before u) 0 w) :
    name ∈ findingsFrom pattern before skip (u ++ w) := by
  induction u generalizing before skip with
  | nil =>
    obtain rfl := Nat.le_zero.1 hSkip
    exact hName
  | cons c u ih =>
    have hRest : StopsBefore pattern u w := by
      intro a b hu
      exact h (c :: a) b (by rw [hu, List.cons_append])
    rw [List.cons_append]
    cases skip with
    | succ skip => exact ih hRest (Nat.le_of_succ_le_succ hSkip) hName
    | zero =>
      rw [findingsFrom]
      split
      · next f hFound =>
        have hWidth := h [] (c :: u) rfl (List.cons_ne_nil _ _) before f hFound
        rw [List.length_cons] at hWidth
        exact List.mem_cons_of_mem _ (ih hRest (by omega) hName)
      · exact ih hRest (Nat.zero_le _) hName

theorem mem_findingsFrom_of_found {pattern : Pattern} {before : Option Char} {s : List Char}
    {f : Finding} (hNil : s ≠ []) (h : pattern before s = some f) :
    f.name ∈ findingsFrom pattern before 0 s := by
  cases s with
  | nil => exact absurd rfl hNil
  | cons c s =>
    rw [findingsFrom, h]
    exact List.mem_cons_self ..

/-! ## Lines -/

theorem eq_of_linesUp_concat {fresh : Bool} {u : List Char} {c : Char}
    (h : linesUp fresh (u ++ [c]) = true) : c = '\n' ∨ c = ' ' := by
  rw [linesUp_append] at h
  simp only [linesUp, Bool.or_eq_true, Bool.and_eq_true, decide_eq_true_eq] at h
  exact h.imp id (·.2)

theorem isBlank_of_linesUp_concat {fresh : Bool} {u : List Char} {c : Char}
    (h : linesUp fresh (u ++ [c]) = true) : isBlank c = true := by
  rcases eq_of_linesUp_concat h with rfl | rfl <;> decide

/-- Before a line there stands nothing or a blank. -/
theorem isBlank_of_mem_lastOf {fresh : Bool} {u : List Char} (h : linesUp fresh u = true)
    {before : Option Char} (hBefore : fresh = true → ∀ c ∈ before, isBlank c = true) :
    ∀ c ∈ lastOf before u, isBlank c = true := by
  induction u generalizing fresh before with
  | nil => exact hBefore h
  | cons c u ih =>
    refine ih h fun hFresh d hd => ?_
    obtain rfl := Option.some.inj hd
    simp only [Bool.or_eq_true, Bool.and_eq_true, decide_eq_true_eq] at hFresh
    rcases hFresh with rfl | ⟨-, rfl⟩ <;> decide

theorem linesUp_false {s : List Char} (h : '\n' ∉ s) : linesUp false s = false := by
  induction s with
  | nil => rfl
  | cons c s ih =>
    obtain ⟨hc, hs⟩ := not_or.1 (mt List.mem_cons.2 h)
    simpa [linesUp, Ne.symm hc] using ih hs

/-- Only spaces stand on a line before its beginning. -/
theorem eq_space_of_linesUp {fresh : Bool} {s : List Char} (hLine : '\n' ∉ s)
    (h : linesUp fresh s = true) : ∀ c ∈ s, c = ' ' := by
  induction s generalizing fresh with
  | nil => exact fun c hc => absurd hc List.not_mem_nil
  | cons c s ih =>
    obtain ⟨hc, hs⟩ := not_or.1 (mt List.mem_cons.2 hLine)
    have hFresh : (c = '\n' || (fresh && c = ' ')) = true := by
      by_contra hNot
      rw [Bool.not_eq_true] at hNot
      rw [linesUp, hNot, linesUp_false hs] at h
      cases h
    intro d hd
    rcases List.mem_cons.1 hd with rfl | hd
    · simp only [Bool.or_eq_true, Bool.and_eq_true, decide_eq_true_eq] at hFresh
      exact (hFresh.resolve_left (Ne.symm hc)).2
    · exact ih hs h d hd

theorem exists_concat {s : List Char} (h : s ≠ []) : ∃ t c, s = t ++ [c] :=
  ⟨s.dropLast, s.getLast h, (List.dropLast_concat_getLast h).symm⟩

theorem StopsBefore.orElse {p q : Pattern} {u w : List Char} (hp : StopsBefore p u w)
    (hq : StopsBefore q u w) :
    StopsBefore (fun before s => (p before s).orElse fun _ => q before s) u w := by
  intro a b hu hb before f h
  dsimp only at h
  cases hFirst : p before (b ++ w) with
  | some g =>
    rw [hFirst] at h
    obtain rfl := Option.some.inj h
    exact hp a b hu hb before g hFirst
  | none =>
    rw [hFirst] at h
    exact hq a b hu hb before f h

/-- What is found over a line before goes on with a blank or a colon. -/
theorem stopsBefore_of_covers {pattern : Pattern} (h : Covers pattern IsRun) {u : List Char}
    (hu : linesUp true u = true) (t : List Char) : StopsBefore pattern u ('s' :: t) := by
  rintro a b rfl hb before f hFound
  obtain ⟨x, rest, hText, hWidth, hRun⟩ := h before _ f hFound
  obtain ⟨b', c, rfl⟩ := exists_concat hb
  rw [← List.append_assoc] at hu
  have hBlank := isBlank_of_linesUp_concat hu
  rw [hWidth]
  rcases List.append_eq_append_iff.1 hText with ⟨tail, rfl, hTail⟩ | ⟨tail, hShort, -⟩
  · cases tail with
    | nil => simp
    | cons d tail =>
      obtain ⟨rfl, -⟩ := List.cons.inj hTail
      have hSplit : b' ++ [c] ++ 's' :: tail = b' ++ c :: 's' :: tail := by simp
      rw [hSplit, IsRun, List.isChain_append_cons_cons] at hRun
      exact absurd (hRun.2.1 hBlank) (by decide)
  · rw [hShort, List.length_append]
    omega

theorem not_isBlank_of_mem_opening {c : Char} (h : c ∈ quotedOpening) : isBlank c = false := by
  have hAll : quotedOpening.all (!isBlank ·) = true := by decide
  simpa using List.all_eq_true.1 hAll c h

/-- In a closed text nothing that stands between quotes goes on into another line. -/
theorem stopsBefore_quotedName? {u t : List Char} (hClosed : IsClosed (u ++ t))
    (hu : linesUp true u = true) (w : List Char) : StopsBefore quotedName? u w := by
  rintro a b rfl hb before f hFound
  obtain ⟨x, rest, hText, hWidth, name, rfl, hName⟩ := covers_quotedName? before _ f hFound
  rw [hWidth]
  rcases List.append_eq_append_iff.1 hText with ⟨tail, hLong, -⟩ | ⟨tail, hShort, -⟩
  · rcases List.eq_nil_or_concat tail with rfl | ⟨tail, d, rfl⟩
    · rw [hLong, List.append_nil]
    rw [List.concat_eq_append, ← List.append_assoc] at hLong
    have hInside : quotedOpening ++ name = b ++ tail := List.append_inj_left' hLong rfl
    rcases List.append_eq_append_iff.1 hInside with ⟨first, rfl, rfl⟩ | ⟨opening, hOpening, -⟩
    · -- the line of the opening has not ended yet, but only spaces stand before the next one
      obtain ⟨closed, behind, hBehind, hLine⟩ := hClosed a (first ++ t) (by simp)
      have hFirst : '\n' ∉ first := by
        rcases List.append_eq_append_iff.1 hBehind with ⟨_, rfl, -⟩ | ⟨more, rfl, hQuote⟩
        · exact fun hMem => hLine (List.mem_append_left _ hMem)
        · cases more with
          | nil => simpa using hLine
          | cons e more =>
            obtain ⟨rfl, -⟩ := List.cons.inj hQuote
            exact absurd (by simp) hName
      have hOpening : '\n' ∉ quotedOpening := by decide
      rw [linesUp_append] at hu
      have hSpaces := eq_space_of_linesUp (by simp [hOpening, hFirst]) hu
      have hMem : 's' ∈ quotedOpening ++ first := List.mem_append_left _ (by decide)
      exact absurd (hSpaces 's' hMem) (by decide)
    · obtain ⟨b', c, rfl⟩ := exists_concat hb
      rw [← List.append_assoc] at hu
      have hMem : c ∈ quotedOpening := by simp [hOpening]
      have hBlank := isBlank_of_linesUp_concat hu
      rw [not_isBlank_of_mem_opening hMem] at hBlank
      exact nomatch hBlank
  · simp only [hShort, List.length_append]
    omega

/-- A word that begins a line of a text is reached, and with it what is found there. -/
theorem mem_findings_of_begins {pattern : Pattern} {w s name : List Char} (h : Begins w s)
    (hStops : ∀ u v, s = u ++ w ++ v → linesUp true u = true → ∀ t, StopsBefore pattern u (w ++ t))
    (hFound : ∀ before t, (∀ c ∈ before, isBlank c = true) →
      name ∈ findingsFrom pattern before 0 (w ++ t)) (rest : List Char) :
    name ∈ findings pattern (s ++ rest) := by
  obtain ⟨u, v, rfl, hu⟩ := h
  have hBefore : ∀ c ∈ lastOf none u, isBlank c = true :=
    isBlank_of_mem_lastOf hu fun _ c hc => nomatch hc
  have hName := mem_findingsFrom_append (hStops u v rfl hu (v ++ rest)) (Nat.zero_le _)
    (hFound _ (v ++ rest) hBefore)
  simpa [findings] using hName

/-! ## Calls -/

theorem isWordStart_of_isBlank {before : Option Char} (h : ∀ c ∈ before, isBlank c = true) :
    isWordStart before = true := by
  cases before with
  | none => rfl
  | some c => simp [isWordStart, not_isWord_of_isBlank (h c rfl)]

theorem behindBuilder?_append {before : Option Char} (h : isWordStart before = true)
    (t : List Char) : behindBuilder? before ("svg.".toList ++ t) = some t := by
  rw [behindBuilder?, if_pos h]
  exact behind?_eq_some_iff.2 rfl

theorem behind?_other_eq_none {label : List Char} (hLabel : isMemberName label = true)
    (hOther : label ≠ "svgAttr".toList) (t : List Char) :
    behind? "svgAttr(" (label ++ '(' :: t) = none := by
  rw [Option.eq_none_iff_forall_ne_some]
  intro rest hRest
  have hText : label ++ '(' :: t = "svgAttr".toList ++ '(' :: rest := by
    rw [behind?_eq_some_iff.1 hRest]
    rfl
  have hEnd {tail : List Char} : ∀ c ∈ ('(' :: tail).head?, isMemberChar c = false := by
    intro c hc
    obtain rfl := Option.some.inj hc
    decide
  have hName := nameAt?_append hLabel (hEnd : ∀ c ∈ ('(' :: t).head?, isMemberChar c = false)
  rw [hText, nameAt?_append (by decide) hEnd] at hName
  exact hOther (Prod.mk.inj (Option.some.inj hName)).1.symm

/-- What a call of an element is for the pattern. -/
theorem callName?_append {label : List Char} (hLabel : isMemberName label = true)
    (hOther : label ≠ "svgAttr".toList) {before : Option Char} (h : isWordStart before = true)
    (t : List Char) :
    callName? before ("svg.".toList ++ (label ++ '(' :: t)) = some ⟨label, label.length + 5⟩ := by
  have hName : nameAt? isMemberChar (label ++ '(' :: t) = some (label, '(' :: t) := by
    refine nameAt?_append hLabel fun c hc => ?_
    obtain rfl := Option.some.inj hc
    decide
  simp only [callName?, behindBuilder?_append h, behind?_other_eq_none hLabel hOther, hName,
    Option.isSome_none, Bool.false_eq_true, if_false]

/-- A call of an element is found. -/
theorem mem_findings_call {label s : List Char} (hLabel : isMemberName label = true)
    (hOther : label ≠ "svgAttr".toList) (h : Begins ("svg.".toList ++ label ++ ['(']) s)
    (rest : List Char) : label ∈ findings elementPattern (s ++ rest) := by
  refine mem_findings_of_begins h (fun u v _ hu t => ?_) (fun before t hBefore => ?_) rest
  · exact stopsBefore_of_covers covers_elementPattern hu _
  · have hText : "svg.".toList ++ label ++ ['('] ++ t = "svg.".toList ++ (label ++ '(' :: t) := by
      simp
    have hFound : elementPattern before ("svg.".toList ++ (label ++ '(' :: t)) =
        some ⟨label, label.length + 5⟩ := by
      have hTag : tagName? before ("svg.".toList ++ (label ++ '(' :: t)) = none := rfl
      rw [elementPattern, hTag]
      exact callName?_append hLabel hOther (isWordStart_of_isBlank hBefore) t
    rw [hText]
    exact mem_findingsFrom_of_found (by simp) hFound

/-! ## Statements -/

theorem isAttributeName_builder {name : List Char} (h : isMemberName name = true) :
    isNameOf isAttributeChar ("svg.".toList ++ name) = true := by
  have hBuilder : "svg.".toList ++ name = 's' :: ("vg.".toList ++ name) := rfl
  have hFirst : isInitial 's' = true := by decide
  have hRest : "vg.".toList.all isAttributeChar = true := by decide
  have hName : name.all isAttributeChar = true :=
    List.all_eq_true.2 (isAttributeChar_of_isMemberName h)
  rw [hBuilder, isNameOf, hFirst, List.all_append, hRest, hName]
  rfl

theorem markupName?_eq_none {name : List Char} (h : isNameOf isAttributeChar name = true) {c : Char}
    (hc : isAttributeChar c = false) (hSign : c ≠ '=') (before : Option Char) (t : List Char) :
    markupName? before (name ++ c :: t) = none := by
  have hName : nameAt? isAttributeChar (name ++ c :: t) = some (name, c :: t) := by
    refine nameAt?_append h fun d hd => ?_
    obtain rfl := Option.some.inj hd
    exact hc
  unfold markupName?
  rw [hName]
  split
  · rfl
  · split
    · next hPair =>
      obtain ⟨-, hRest⟩ := Prod.mk.inj (Option.some.inj hPair)
      exact absurd (List.cons.inj hRest).1 hSign
    · rfl

theorem stopsBefore_attributePattern {u t : List Char} (hClosed : IsClosed (u ++ t))
    (hu : linesUp true u = true) (w : List Char) :
    StopsBefore attributePattern u ('s' :: w) :=
  ((stopsBefore_of_covers covers_markupName? hu w).orElse
    (stopsBefore_of_covers covers_statementName? hu w)).orElse
    (stopsBefore_quotedName? hClosed hu _)

/-- What a statement is for its pattern. -/
theorem statementName?_append {name blanks : List Char} (hName : isMemberName name = true)
    (hBlanks : ∀ c ∈ blanks, isBlank c = true) {before : Option Char}
    (h : isWordStart before = true) (t : List Char) : ∃ width,
      statementName? before ("svg.".toList ++ (name ++ (blanks ++ ':' :: '=' :: t))) =
        some ⟨name, width⟩ := by
  have hRead : nameAt? isMemberChar (name ++ (blanks ++ ':' :: '=' :: t)) =
      some (name, blanks ++ ':' :: '=' :: t) := by
    refine nameAt?_append hName fun c hc => Bool.eq_false_iff.2 fun hMember => ?_
    have hChar := isAttributeChar_of_isMemberChar hMember
    cases blanks with
    | nil =>
      obtain rfl := Option.some.inj hc
      exact absurd hMember (by decide)
    | cons d blanks =>
      obtain rfl := Option.some.inj hc
      rw [not_isAttributeChar_of_isBlank (hBlanks d (by simp))] at hChar
      cases hChar
  have hSign : (blanks ++ ':' :: '=' :: t).dropWhile isBlank = ':' :: '=' :: t := by
    rw [List.dropWhile_append_of_pos hBlanks]
    rfl
  simp only [statementName?, behindBuilder?_append h, Option.bind_some, hRead, hSign]
  exact ⟨_, rfl⟩

/-- A statement is found by the name of its member. -/
theorem mem_findings_statement {name s : List Char} (hName : isMemberName name = true)
    (hClosed : IsClosed s) (h : Begins ("svg.".toList ++ name ++ " :=".toList) s)
    (rest : List Char) : name ∈ findings attributePattern (s ++ rest) := by
  refine mem_findings_of_begins h (fun u v hText hu t => ?_) (fun before t hBefore => ?_) rest
  · rw [hText, List.append_assoc] at hClosed
    exact stopsBefore_attributePattern hClosed hu _
  · have hMarkup : markupName? before ("svg.".toList ++ name ++ " :=".toList ++ t) = none := by
      rw [List.append_assoc]
      exact markupName?_eq_none (isAttributeName_builder hName) (by decide) (by decide) before _
    have hBlank : ∀ c ∈ [' '], isBlank c = true := by
      intro c hc
      rw [List.mem_singleton.1 hc]
      decide
    obtain ⟨width, hStatement⟩ :=
      statementName?_append hName hBlank (isWordStart_of_isBlank hBefore) t
    have hText : "svg.".toList ++ name ++ " :=".toList ++ t =
        "svg.".toList ++ (name ++ ([' '] ++ ':' :: '=' :: t)) := by
      simp
    have hFound : attributePattern before ("svg.".toList ++ name ++ " :=".toList ++ t) =
        some ⟨name, width⟩ := by
      rw [attributePattern, hMarkup, hText, hStatement]
      rfl
    exact mem_findingsFrom_of_found (by simp) hFound

theorem upTo_append_of_not_mem {c : Char} {name : List Char} (h : c ∉ name) (t : List Char) :
    upTo [c] (name ++ c :: t) = some (name, t) := by
  induction name with
  | nil => simp [upTo, List.isPrefixOf]
  | cons d name ih =>
    obtain ⟨hc, hName⟩ := not_or.1 (mt List.mem_cons.2 h)
    rw [List.cons_append, upTo, if_neg (by simpa [List.isPrefixOf] using hc), ih hName]
    rfl

theorem behind?_quotedOpening (t : List Char) :
    behind? "svgAttr(\x22" (quotedOpening ++ t) = some t :=
  behind?_eq_some_iff.2 rfl

theorem quotedOpening_ne_nil : quotedOpening ≠ [] := by decide

theorem attributePattern_eq_none {before : Option Char} {s : List Char}
    (hMarkup : markupName? before s = none) (hStatement : statementName? before s = none)
    (hQuoted : quotedName? before s = none) : attributePattern before s = none := by
  rw [attributePattern, hMarkup, hStatement, hQuoted]
  rfl

theorem statementName?_eq_none {s : List Char} (h : behind? "svg." s = none)
    (before : Option Char) : statementName? before s = none := by
  have hBuilder : behindBuilder? before s = none := by rw [behindBuilder?, h, ite_self]
  rw [statementName?, hBuilder]
  rfl

theorem quotedName?_eq_none {s : List Char} (h : behind? "svgAttr(\x22" s = none)
    (before : Option Char) : quotedName? before s = none := by
  rw [quotedName?, h]
  exact ite_self _

/-- The method is not assigned to. -/
theorem statementName?_quotedOpening (before : Option Char) (t : List Char) :
    statementName? before ("svg.".toList ++ (quotedOpening ++ t)) = none := by
  have hName : nameAt? isMemberChar (quotedOpening ++ t) =
      some ("svgAttr".toList, '(' :: '\x22' :: t) := by
    have hMethod : isNameOf isMemberChar "svgAttr".toList = true := by decide
    refine nameAt?_append hMethod fun c hc => ?_
    obtain rfl := Option.some.inj hc
    decide
  unfold statementName? behindBuilder?
  split
  · rfl
  · next name rest hRest =>
    split at hRest
    · rw [behind?_eq_some_iff.2 rfl, Option.bind_some, hName] at hRest
      obtain ⟨-, rfl⟩ := Prod.mk.inj (Option.some.inj hRest)
      rfl
    · exact nomatch hRest

/-- Nothing is found in the name of the builder before the name of the method. -/
theorem stopsBefore_builder (t : List Char) :
    StopsBefore attributePattern "svg.".toList (quotedOpening ++ t) := by
  intro a b hBuilder hb before f hFound
  have hTails : b ∈ [['s', 'v', 'g', '.'], ['v', 'g', '.'], ['g', '.'], ['.'], []] :=
    (List.mem_tails ..).2 ⟨a, hBuilder.symm⟩
  have hMarkup (name : List Char) (h : isNameOf isAttributeChar name = true) :
      markupName? before (name ++ '(' :: '\x22' :: t) = none :=
    markupName?_eq_none h (by decide) (by decide) before _
  have hNone : attributePattern before (b ++ (quotedOpening ++ t)) = none := by
    simp only [List.mem_cons, List.not_mem_nil, or_false] at hTails
    rcases hTails with rfl | rfl | rfl | rfl | rfl
    · exact attributePattern_eq_none (hMarkup "svg.svgAttr".toList (by decide))
        (statementName?_quotedOpening before t) (quotedName?_eq_none rfl before)
    · exact attributePattern_eq_none (hMarkup "vg.svgAttr".toList (by decide))
        (statementName?_eq_none rfl before) (quotedName?_eq_none rfl before)
    · exact attributePattern_eq_none (hMarkup "g.svgAttr".toList (by decide))
        (statementName?_eq_none rfl before) (quotedName?_eq_none rfl before)
    · have hPoint : markupName? before (['.'] ++ (quotedOpening ++ t)) = none := by
        rw [markupName?]
        split <;> rfl
      exact attributePattern_eq_none hPoint (statementName?_eq_none rfl before)
        (quotedName?_eq_none rfl before)
    · exact absurd rfl hb
  rw [hNone] at hFound
  exact nomatch hFound

theorem attributePattern_quotedOpening {name : List Char} (hNil : name ≠ [])
    (hName : '\x22' ∉ name) (t : List Char) :
    attributePattern (some '.') (quotedOpening ++ (name ++ '\x22' :: t)) =
      some ⟨name, name.length + 10⟩ := by
  have hQuoted : quotedName? (some '.') (quotedOpening ++ (name ++ '\x22' :: t)) =
      some ⟨name, name.length + 10⟩ := by
    have hStart : isWordStart (some '.') = true := by decide
    have hEmpty : name.isEmpty = false := by simpa using hNil
    rw [quotedName?, if_pos hStart, behind?_quotedOpening, Option.bind_some,
      upTo_append_of_not_mem hName]
    simp only [hEmpty, Bool.false_eq_true, if_false]
  have hMarkup : markupName? (some '.') (quotedOpening ++ (name ++ '\x22' :: t)) = none := by
    rw [markupName?, if_pos (by decide)]
  have hStatement : statementName? (some '.') (quotedOpening ++ (name ++ '\x22' :: t)) = none := rfl
  rw [attributePattern, hMarkup, hStatement, hQuoted]
  rfl

/-- A statement of another attribute is found by the name that is given to the method. -/
theorem mem_findings_other {name s : List Char} (hNil : name ≠ []) (hName : '\x22' ∉ name)
    (hClosed : IsClosed s)
    (h : Begins ("svg.".toList ++ (quotedOpening ++ (name ++ ['\x22']))) s)
    (rest : List Char) : name ∈ findings attributePattern (s ++ rest) := by
  refine mem_findings_of_begins h (fun u v hText hu t => ?_) (fun before t hBefore => ?_) rest
  · rw [hText, List.append_assoc] at hClosed
    exact stopsBefore_attributePattern hClosed hu _
  · have hText : "svg.".toList ++ (quotedOpening ++ (name ++ ['\x22'])) ++ t =
        "svg.".toList ++ (quotedOpening ++ (name ++ '\x22' :: t)) := by
      simp only [List.append_assoc, List.cons_append, List.nil_append]
    have hFound := mem_findingsFrom_of_found (List.append_ne_nil_of_left_ne_nil quotedOpening_ne_nil _)
      (attributePattern_quotedOpening hNil hName t)
    rw [hText]
    exact mem_findingsFrom_append (stopsBefore_builder _) (Nat.zero_le _) hFound

end SvgBuilder.Comparison
