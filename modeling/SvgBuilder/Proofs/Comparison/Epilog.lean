import SvgBuilder.Proofs.Comparison.Prolog

/-!
# What is dropped behind the root

Behind the root the longest end of a text is dropped that looks like comments, processing
instructions and blanks.  That is more than the epilog of a document if such an item seems to begin
inside the root element and to end in the epilog.  Otherwise it is what would be dropped of the root
element alone, with the epilog.

## Main results

* `behindMisc?_eq_some_iff`: what a comment, an instruction or a blank is for the comparison.
* `isMisc_of_normalized`: line ends do not matter to what looks like an epilog.
* `withoutEpilog_append_misc`: an epilog is dropped, and nothing else because of it.
-/

namespace SvgBuilder.Comparison

open SvgBuilder.Text SvgBuilder.Markup

variable {s t e r : List Char}

/-! ## Items -/

/-- How comments and processing instructions begin and end. -/
def miscMarks : List (String × String) := [("<?", "?>"), ("<!--", "-->")]

/-- What stands behind an item: a blank, or a text between two marks. -/
theorem behindMisc?_eq_some_iff :
    behindMisc? s = some t ↔ (∃ c, isBlank c = true ∧ s = c :: t) ∨
      ∃ m ∈ miscMarks, ∃ u x, s = m.1.toList ++ u ∧ upTo m.2.toList u = some (x, t) := by
  constructor
  · intro h
    cases s with
    | nil => cases h
    | cons c s =>
      rw [behindMisc?] at h
      split at h
      · next hBlank => exact .inl ⟨c, hBlank, by rw [Option.some.inj h]⟩
      · split at h
        · next u hOpening =>
          obtain ⟨⟨x, rest⟩, hStop, rfl⟩ := Option.map_eq_some_iff.1 h
          exact .inr ⟨("<?", "?>"), by decide, u, x, behind?_eq_some_iff.1 hOpening, hStop⟩
        · split at h
          · next u hOpening =>
            obtain ⟨⟨x, rest⟩, hStop, rfl⟩ := Option.map_eq_some_iff.1 h
            exact .inr ⟨("<!--", "-->"), by decide, u, x, behind?_eq_some_iff.1 hOpening, hStop⟩
          · cases h
  · rintro (⟨c, hBlank, rfl⟩ | ⟨m, hm, u, x, rfl, hStop⟩)
    · rw [behindMisc?, if_pos hBlank]
    · simp only [miscMarks, List.mem_cons, List.not_mem_nil, or_false] at hm
      rcases hm with rfl | rfl
      · rw [behindMisc?_instruction]
        exact Option.map_eq_some_iff.2 ⟨_, hStop, rfl⟩
      · rw [behindMisc?_comment]
        exact Option.map_eq_some_iff.2 ⟨_, hStop, rfl⟩

theorem behindMisc?_append (h : behindMisc? s = some t) (e : List Char) :
    behindMisc? (s ++ e) = some (t ++ e) := by
  rw [behindMisc?_eq_some_iff] at h ⊢
  rcases h with ⟨c, hBlank, rfl⟩ | ⟨m, hm, u, x, rfl, hStop⟩
  · exact .inl ⟨c, hBlank, rfl⟩
  · exact .inr ⟨m, hm, u ++ e, x, List.append_assoc _ _ _, upTo_append_right hStop e⟩

theorem skips_blanks (h : ∀ c ∈ s, isBlank c = true) (t : List Char) : Skips (s ++ t) t := by
  induction s with
  | nil => exact .done t
  | cons c s ih =>
    have hBlank := h c List.mem_cons_self
    refine .item (behindMisc?_eq_some_iff.2 (.inl ⟨c, hBlank, rfl⟩)) ?_
    exact ih fun d hd => h d (List.mem_cons_of_mem _ hd)

/-! ## Texts that look like an epilog -/

theorem isMisc_nil : isMisc [] = true := by
  rw [isMisc.eq_def]
  rfl

/-- Behind comments, instructions and blanks only what follows counts. -/
theorem isMisc_append (h : isMisc s = true) (e : List Char) : isMisc (s ++ e) = isMisc e := by
  fun_induction isMisc s with
  | case1 s t hItem ih => rw [isMisc_of_item (behindMisc?_append hItem e), ih h]
  | case2 s hNone =>
    rw [List.isEmpty_iff.1 h]
    rfl

theorem noLineEnd_of_mem_miscMarks {m : String × String} (h : m ∈ miscMarks) :
    NoLineEnd m.1.toList ∧ NoLineEnd m.2.toList ∧ m.2.toList ≠ [] := by
  simp only [miscMarks, List.mem_cons, List.not_mem_nil, or_false] at h
  rcases h with rfl | rfl
  · exact ⟨by decide, by decide, by decide⟩
  · exact ⟨by decide, by decide, by decide⟩

/-- An item of a normalized text comes from items of the text. -/
theorem exists_skips_of_normalized (h : behindMisc? (normalized s) = some t) :
    ∃ u, Skips s u ∧ normalized u = t := by
  rcases behindMisc?_eq_some_iff.1 h with ⟨c, hBlank, hText⟩ | ⟨m, hm, u, x, hText, hStop⟩
  · obtain ⟨a, b, rfl, ha, hb⟩ := exists_of_normalized_eq_append (a := [c]) hText
    refine ⟨b, skips_blanks (fun d hd => ?_) b, hb⟩
    by_cases hReturn : d = '\r'
    · rw [hReturn]
      decide
    · have hMem := mem_normalized_of_mem hd hReturn
      rw [ha, List.mem_singleton] at hMem
      rw [hMem]
      exact hBlank
  · obtain ⟨hOpening, hEnd, hSome⟩ := noLineEnd_of_mem_miscMarks hm
    obtain ⟨v, rfl⟩ := (prefix_normalized_iff hOpening).1 ⟨u, hText.symm⟩
    rw [normalized_append hOpening] at hText
    obtain rfl := List.append_cancel_left hText
    rw [upTo_normalized hEnd hSome] at hStop
    obtain ⟨⟨y, w⟩, hFound, hPair⟩ := Option.map_eq_some_iff.1 hStop
    obtain ⟨-, rfl⟩ := Prod.mk.inj hPair
    exact ⟨w, .item (behindMisc?_eq_some_iff.2 (.inr ⟨m, hm, v, y, rfl, hFound⟩)) (.done w), rfl⟩

/-- Line ends do not matter to what looks like an epilog. -/
theorem isMisc_of_normalized (h : isMisc (normalized s) = true) : isMisc s = true := by
  generalize hText : normalized s = n at h
  fun_induction isMisc n generalizing s with
  | case1 n t hItem ih =>
    subst hText
    obtain ⟨u, hSkips, hu⟩ := exists_skips_of_normalized hItem
    rw [hSkips.isMisc]
    exact ih hu h
  | case2 n hNone =>
    rw [List.isEmpty_iff.1 h] at hText
    rw [eq_of_normalized_eq_nil hText]
    exact isMisc_nil

/-! ## The end of the root -/

/-- Whether whatever seems to begin in a root element and to end behind it seems to end in it, too:
if the end of a comment or an instruction stands in the epilog, one stands in the root element
behind every beginning there. -/
def HoldsEnds (root epilog : List Char) : Prop :=
  ∀ m ∈ miscMarks, ∀ t, m.1.toList ++ t <:+ root → m.2.toList <:+: epilog → m.2.toList <:+: t

/-- Whether one stands behind every beginning in a text. -/
def holdsEnds (epilog : List Char) : List Char → Bool
  | [] => true
  | c :: s =>
    (miscMarks.all fun m =>
      (behind? m.1 (c :: s)).all fun t =>
        (upTo m.2.toList epilog).isNone || (upTo m.2.toList t).isSome) && holdsEnds epilog s

theorem holdsEnds_iff {root epilog : List Char} :
    holdsEnds epilog root = true ↔ HoldsEnds root epilog := by
  induction root with
  | nil =>
    refine iff_of_true rfl fun m hm t hSuffix => ?_
    have hNil := List.suffix_nil.1 hSuffix
    simp only [miscMarks, List.mem_cons, List.not_mem_nil, or_false] at hm
    rcases hm with rfl | rfl <;> exact nomatch hNil
  | cons c s ih =>
    rw [holdsEnds, Bool.and_eq_true, ih]
    constructor
    · rintro ⟨hFirst, hRest⟩ m hm t hSuffix hEpilog
      rcases List.suffix_cons_iff.1 hSuffix with hText | hSuffix
      · have hMark := List.all_eq_true.1 hFirst m hm
        rw [behind?_eq_some_iff.2 hText.symm, Option.all_some, Bool.or_eq_true,
          isSome_upTo_iff] at hMark
        refine hMark.resolve_left fun hNone => ?_
        rw [Option.isNone_iff_eq_none] at hNone
        have hSome := isSome_upTo_iff.2 hEpilog
        rw [hNone] at hSome
        exact nomatch hSome
      · exact hRest m hm t hSuffix hEpilog
    · intro hHolds
      refine ⟨List.all_eq_true.2 fun m hm => ?_, fun m hm t hSuffix =>
        hHolds m hm t (hSuffix.trans (List.suffix_cons c s))⟩
      rw [Option.all_eq_true]
      intro t ht
      rw [Bool.or_eq_true, isSome_upTo_iff]
      by_cases hEpilog : m.2.toList <:+: epilog
      · exact .inr (hHolds m hm t ⟨[], (behind?_eq_some_iff.1 ht).symm⟩ hEpilog)
      · rw [← isSome_upTo_iff, Bool.not_eq_true, Option.isSome_eq_false_iff] at hEpilog
        exact .inl hEpilog

instance (root epilog : List Char) : Decidable (HoldsEnds root epilog) :=
  decidable_of_iff _ holdsEnds_iff

/-- A word does not reach across its last character, which it holds only there. -/
theorem infix_append_of_last {w x e : List Char} {c : Char} (hc : c ∉ w)
    (h : w ++ [c] <:+: x ++ c :: e) : w ++ [c] <:+: x ++ [c] ∨ w ++ [c] <:+: e := by
  obtain ⟨a, b, h⟩ := h
  have hText : a ++ w ++ c :: b = x ++ c :: e := by simpa using h
  rcases List.append_eq_append_iff.1 hText with ⟨u, rfl, hu⟩ | ⟨u, hx, hu⟩
  · left
    cases u with
    | nil => exact ⟨a, [], by simp⟩
    | cons d u =>
      obtain rfl := (List.cons.inj hu).1
      exact ⟨a, u ++ [c], by simp⟩
  · cases u with
    | nil =>
      rw [List.append_nil] at hx
      exact .inl ⟨a, [], by simp [← hx]⟩
    | cons d u =>
      obtain ⟨rfl, rfl⟩ := List.cons.inj hu
      right
      -- the word stands behind the character, since it does not hold it
      rcases List.append_eq_append_iff.1 hx with ⟨v, -, hw⟩ | ⟨v, rfl, hw⟩
      · exact absurd (by simp [hw]) hc
      · cases v with
        | nil => exact absurd (by rw [List.nil_append] at hw; simp [← hw]) hc
        | cons d v =>
          obtain ⟨rfl, rfl⟩ := List.cons.inj hw
          exact ⟨v, b, by simp⟩

theorem ends_of_mem_miscMarks {m : String × String} (h : m ∈ miscMarks) :
    '>' ∉ m.1.toList ∧ ∃ w, m.2.toList = w ++ ['>'] ∧ '>' ∉ w := by
  simp only [miscMarks, List.mem_cons, List.not_mem_nil, or_false] at h
  rcases h with rfl | rfl
  · exact ⟨by decide, ['?'], by decide, by decide⟩
  · exact ⟨by decide, ['-', '-'], by decide, by decide⟩

section Root

variable (hLast : ∃ x, r = x ++ ['>']) (hEnds : HoldsEnds r e)

include hLast in
theorem exists_last_of_suffix (h : s <:+ r) (hSome : s ≠ []) : ∃ y, s = y ++ ['>'] := by
  obtain ⟨x, rfl⟩ := hLast
  obtain ⟨z, hz⟩ := h
  rcases List.eq_nil_or_concat s with rfl | ⟨y, d, rfl⟩
  · exact absurd rfl hSome
  · rw [List.concat_eq_append, ← List.append_assoc] at hz
    obtain rfl : d = '>' := (List.cons.inj (List.append_inj_right' hz rfl)).1
    exact ⟨y, List.concat_eq_append⟩

include hLast hEnds in
/-- The first end of an item that begins in the root element is met there. -/
theorem exists_upTo_of_append {m : String × String} {v x : List Char} (hm : m ∈ miscMarks)
    (hv : m.1.toList ++ v <:+ r) (hSome : v ≠ [])
    (hStop : upTo m.2.toList (v ++ e) = some (x, t)) :
    ∃ rest, upTo m.2.toList v = some (x, rest) ∧ t = rest ++ e := by
  obtain ⟨-, w, hw, hNotEnd⟩ := ends_of_mem_miscMarks hm
  obtain ⟨z, rfl⟩ := exists_last_of_suffix hLast ((List.suffix_append _ _).trans hv) hSome
  have hStands : m.2.toList <:+: z ++ '>' :: e := by
    refine ⟨x, t, ?_⟩
    rw [← upTo_append hStop]
    simp
  have hInside : m.2.toList <:+: z ++ ['>'] := by
    rw [hw] at hStands ⊢
    rcases infix_append_of_last hNotEnd hStands with hInside | hOutside
    · exact hInside
    · exact hw ▸ hEnds m hm _ hv (hw ▸ hOutside)
  obtain ⟨a, b, hParts⟩ := hInside
  obtain ⟨x', -, rest, hFound⟩ := exists_upTo a m.2.toList b
  rw [hParts] at hFound
  obtain ⟨rfl, rfl⟩ :=
    Prod.mk.inj (Option.some.inj (hStop.symm.trans (upTo_append_right hFound e)))
  exact ⟨rest, hFound, rfl⟩

include hLast hEnds in
/-- An item that begins in the root element ends there. -/
theorem exists_behindMisc?_of_append (h : s <:+ r) (hSome : s ≠ [])
    (hItem : behindMisc? (s ++ e) = some t) :
    ∃ rest, behindMisc? s = some rest ∧ rest <:+ s ∧ t = rest ++ e := by
  obtain ⟨y, hy⟩ := exists_last_of_suffix hLast h hSome
  rcases behindMisc?_eq_some_iff.1 hItem with ⟨c, hBlank, hFirst⟩ | ⟨m, hm, u, x, hFirst, hStop⟩
  · cases s with
    | nil => exact absurd rfl hSome
    | cons d s =>
      obtain ⟨rfl, rfl⟩ := List.cons.inj hFirst
      exact ⟨s, behindMisc?_eq_some_iff.2 (.inl ⟨d, hBlank, rfl⟩), List.suffix_cons d s, rfl⟩
  · have hNotFirst := (ends_of_mem_miscMarks hm).1
    rcases List.append_eq_append_iff.1 hFirst with ⟨v, hMark, -⟩ | ⟨v, rfl, rfl⟩
    · exact absurd (by simp [hMark, hy]) hNotFirst
    · have hBehind : v ≠ [] := by
        rintro rfl
        rw [List.append_nil] at hy
        exact hNotFirst (by simp [hy])
      obtain ⟨rest, hFound, rfl⟩ := exists_upTo_of_append hLast hEnds hm h hBehind hStop
      exact ⟨rest, behindMisc?_eq_some_iff.2 (.inr ⟨m, hm, v, x, rfl, hFound⟩),
        (suffix_of_upTo hFound).trans (List.suffix_append _ _), rfl⟩

include hLast hEnds in
/-- What looks like an epilog with the epilog looks like one without it. -/
theorem isMisc_of_append (h : s <:+ r) (hMisc : isMisc (s ++ e) = true) : isMisc s = true := by
  generalize hText : s ++ e = n at hMisc
  fun_induction isMisc n generalizing s with
  | case1 n t hItem ih =>
    subst hText
    by_cases hSome : s = []
    · rw [hSome]
      exact isMisc_nil
    · obtain ⟨rest, hBehind, hRest, rfl⟩ :=
        exists_behindMisc?_of_append hLast hEnds h hSome hItem
      rw [isMisc_of_item hBehind]
      exact ih (hRest.trans h) rfl hMisc
  | case2 n hNone =>
    subst hText
    rw [(List.append_eq_nil_iff.1 (List.isEmpty_iff.1 hMisc)).1]
    exact isMisc_nil

include hLast hEnds in
theorem withoutEpilog_append_suffix (hMisc : isMisc e = true) (h : s <:+ r) :
    withoutEpilog (s ++ e) = withoutEpilog s := by
  induction s with
  | nil =>
    cases e with
    | nil => rfl
    | cons c e =>
      rw [List.nil_append, withoutEpilog_nil, withoutEpilog, if_pos hMisc]
  | cons c s ih =>
    have hRest := ih ((List.suffix_cons c s).trans h)
    by_cases hItem : isMisc (c :: s) = true
    · have hBoth : isMisc (c :: s ++ e) = true := (isMisc_append hItem e).trans hMisc
      rw [List.cons_append] at hBoth ⊢
      rw [withoutEpilog, withoutEpilog, if_pos hItem, if_pos hBoth]
    · have hBoth : ¬isMisc (c :: s ++ e) = true := mt (isMisc_of_append hLast hEnds h) hItem
      rw [List.cons_append] at hBoth ⊢
      rw [withoutEpilog, withoutEpilog, if_neg hItem, if_neg hBoth, hRest]

include hLast hEnds in
/-- An epilog is dropped, and nothing else because of it. -/
theorem withoutEpilog_append_misc (hMisc : isMisc e = true) :
    withoutEpilog (r ++ e) = withoutEpilog r :=
  withoutEpilog_append_suffix hLast hEnds hMisc (List.suffix_refl r)

end Root

end SvgBuilder.Comparison
