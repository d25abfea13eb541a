import SvgBuilder.Text.Blank
import SvgBuilder.Text.Line
import SvgBuilder.Text.Split

/-!
# Words inside of texts

What is cut out of a text stands in it as it is: what is left when the blanks at its ends are
dropped, its words, the pieces between separators, its lines.  So a word that does not stand in the
text does not stand in any of these either.  It is the other way round that needs care, where a text
is put together or where parts of it are replaced.

## Main results

* `split_append_cons`: a word does not reach across a character that it does not hold.
* `exists_part_of_intercalate`: a word in joined parts stands in one of them.
* `Replaces.of_isInfix`: a word that stands in a text with replacements stood there before them.
-/

namespace SvgBuilder.Text

variable {a b s t v w x y : List Char} {c : Char}

/-! ## Texts that are put together -/

/-- A word does not reach across a character that it does not hold. -/
theorem split_append_cons (h : x ++ w ++ y = a ++ c :: b) (hc : c ∉ w) :
    (∃ y', a = x ++ w ++ y' ∧ y = y' ++ c :: b) ∨ (∃ x', x = a ++ c :: x' ∧ b = x' ++ w ++ y) := by
  rcases List.append_eq_append_iff.1 h with ⟨u, ha, hy⟩ | ⟨u, hxw, hu⟩
  · exact .inl ⟨u, ha, hy⟩
  · -- the character stands in the word or before it
    cases u with
    | nil => exact .inl ⟨[], by simpa using hxw.symm, by simpa using hu.symm⟩
    | cons d u =>
      obtain ⟨rfl, hb⟩ := List.cons.inj hu
      rcases List.append_eq_append_iff.1 hxw with ⟨u', ha, hw'⟩ | ⟨u', hx, hw'⟩
      · exact absurd (by simp [hw']) hc
      · cases u' with
        | nil => exact absurd (by simp [← show c :: u = w from hw']) hc
        | cons e u' =>
          obtain ⟨rfl, rfl⟩ := List.cons.inj hw'
          exact .inr ⟨u', hx, hb⟩

theorem infix_append_cons (h : w <:+: a ++ c :: b) (hc : c ∉ w) : w <:+: a ∨ w <:+: b := by
  obtain ⟨x, y, h⟩ := h
  rcases split_append_cons h hc with ⟨y', rfl, -⟩ | ⟨x', -, rfl⟩
  · exact .inl ⟨x, y', rfl⟩
  · exact .inr ⟨x', y, rfl⟩

/-- A word that a text begins with ends before a character that it does not hold. -/
theorem prefix_of_not_mem (h : w <+: a ++ c :: b) (hc : c ∉ w) : w <+: a := by
  have hBefore : a ++ [c] <+: a ++ c :: b := ⟨b, by simp⟩
  rcases List.prefix_or_prefix_of_prefix h hBefore with hShort | hLong
  · rcases List.prefix_concat_iff.1 hShort with rfl | hInside
    · exact absurd (by simp) hc
    · exact hInside
  · exact absurd (hLong.subset (by simp)) hc

/-- A word whose last character only may be the given one ends with it at most. -/
theorem prefix_concat_of_not_mem {d : Char} (h : w ++ [d] <+: a ++ c :: b) (hc : c ∉ w) :
    w ++ [d] <+: a ++ [c] := by
  have hBefore : a ++ [c] <+: a ++ c :: b := ⟨b, by simp⟩
  rcases List.prefix_or_prefix_of_prefix h hBefore with hShort | hLong
  · exact hShort
  · rcases List.prefix_concat_iff.1 hLong with hSame | hInside
    · exact hSame ▸ List.prefix_refl _
    · exact absurd (hInside.subset (by simp)) hc

/-- A word does not stand in a text that does not hold its first character. -/
theorem infix_of_not_mem_head (h : c :: w <:+: s ++ t) (hc : c ∉ s) : c :: w <:+: t := by
  induction s with
  | nil => exact h
  | cons d s ih =>
    obtain ⟨hd, hs⟩ := not_or.1 (mt List.mem_cons.2 hc)
    rcases List.infix_cons_iff.1 h with h | h
    · exact absurd (List.cons_prefix_cons.1 h).1 hd
    · exact ih h hs

/-- A word that stands in joined parts stands in one of them, unless it holds what joins them. -/
theorem exists_part_of_intercalate {parts : List (List Char)}
    (h : x ++ w ++ y = List.intercalate [c] parts) (hc : c ∉ w) (hw : w ≠ []) :
    ∃ front part back x' y', parts = front ++ part :: back ∧ part = x' ++ w ++ y' ∧
      (front = [] → x' = x) ∧ (back = [] → y' = y) := by
  induction parts generalizing x with
  | nil => exact absurd (List.append_eq_nil_iff.1 (List.append_eq_nil_iff.1 h).1).2 hw
  | cons part parts ih =>
    cases parts with
    | nil =>
      rw [List.intercalate_singleton] at h
      exact ⟨[], part, [], x, y, rfl, h.symm, fun _ => rfl, fun _ => rfl⟩
    | cons next parts =>
      rw [List.intercalate_cons_cons, List.append_assoc part, List.singleton_append] at h
      rcases split_append_cons h hc with ⟨y', hPart, -⟩ | ⟨x', -, hRest⟩
      · exact ⟨[], part, next :: parts, x, y', rfl, hPart, fun _ => rfl,
          fun hNil => absurd hNil (List.cons_ne_nil _ _)⟩
      · obtain ⟨front, other, back, x'', y', hParts, hOther, -, hBack⟩ := ih hRest.symm
        exact ⟨part :: front, other, back, x'', y', by rw [hParts, List.cons_append], hOther,
          fun hNil => absurd hNil (List.cons_ne_nil _ _), hBack⟩

/-- Joined parts end with the last one. -/
theorem suffix_intercalate (parts : List (List Char)) :
    w <:+ List.intercalate s (parts ++ [w]) := by
  induction parts with
  | nil =>
    have hOne : List.intercalate s ([] ++ [w]) = w := List.intercalate_singleton
    exact hOne.symm ▸ List.suffix_refl w
  | cons part parts ih =>
    rw [List.cons_append, List.intercalate_cons_of_ne_nil (by simp)]
    exact ih.trans (List.suffix_append _ _)

theorem infix_flatten {pieces : List (List Char)} (h : w ∈ pieces) : w <:+: pieces.flatten := by
  obtain ⟨before, behind, rfl⟩ := List.append_of_mem h
  exact ⟨before.flatten, behind.flatten, by simp⟩

/-! ## Texts that are cut out -/

theorem isPrefix_trimEnd (s : List Char) : trimEnd s <+: s := by
  induction s with
  | nil => exact List.prefix_refl _
  | cons c s ih =>
    unfold trimEnd
    split
    · split
      · exact List.nil_prefix
      · exact List.cons_prefix_cons.2 ⟨rfl, List.nil_prefix⟩
    · exact List.cons_prefix_cons.2 ⟨rfl, ih⟩

theorem isInfix_trim (s : List Char) : trim s <:+: s :=
  (isPrefix_trimEnd _).isInfix.trans (List.dropWhile_suffix _).isInfix

theorem infix_of_mem_wordsFrom (h : v ∈ wordsFrom w s) : v <:+: w.reverse ++ s := by
  induction s generalizing w with
  | nil =>
    unfold wordsFrom at h
    split at h
    · exact absurd h List.not_mem_nil
    · simp [List.mem_singleton.1 h]
  | cons c s ih =>
    have hRest (h : v ∈ wordsFrom [] s) : v <:+: w.reverse ++ c :: s :=
      (ih h).trans ⟨w.reverse ++ [c], [], by simp⟩
    unfold wordsFrom at h
    split at h
    · split at h
      · exact hRest h
      · rcases List.mem_cons.1 h with rfl | h
        · exact (List.prefix_append _ _).isInfix
        · exact hRest h
    · simpa using ih h

theorem infix_of_mem_words (h : w ∈ words s) : w <:+: s := infix_of_mem_wordsFrom h

theorem splitAt_cases (sep : Char) (s : List Char) :
    ∃ piece pieces, splitAt sep s = piece :: pieces ∧ piece <+: s ∧
      ∀ other ∈ pieces, other <:+: s := by
  induction s with
  | nil => exact ⟨[], [], rfl, List.prefix_refl _, List.forall_mem_nil _⟩
  | cons c s ih =>
    obtain ⟨piece, pieces, hSplit, hPiece, hPieces⟩ := ih
    have hRest : ∀ other ∈ pieces, other <:+: c :: s := fun other h =>
      (hPieces other h).trans (List.suffix_cons c s).isInfix
    rw [splitAt, hSplit]
    split
    · refine ⟨[], piece :: pieces, rfl, List.nil_prefix, fun other h => ?_⟩
      rcases List.mem_cons.1 h with rfl | h
      · exact hPiece.isInfix.trans (List.suffix_cons c s).isInfix
      · exact hRest other h
    · exact ⟨c :: piece, pieces, rfl, List.cons_prefix_cons.2 ⟨rfl, hPiece⟩, hRest⟩

theorem infix_of_mem_splitAt (h : w ∈ splitAt c s) : w <:+: s := by
  obtain ⟨piece, pieces, hSplit, hPiece, hPieces⟩ := splitAt_cases c s
  rw [hSplit] at h
  rcases List.mem_cons.1 h with rfl | h
  · exact hPiece.isInfix
  · exact hPieces w h

theorem infix_of_mem_lines (h : w ∈ lines s) : w <:+: s := by
  obtain ⟨piece, hPiece, rfl⟩ := List.mem_map.1 h
  have hWhole := infix_flatten hPiece
  rw [flatten_pieces] at hWhole
  have hLine : withoutBreak piece <+: piece := List.takeWhile_prefix _
  exact hLine.isInfix.trans hWhole

/-! ## Texts with replacements -/

/-- A text with some parts replaced by others that a word neither goes on with nor begins in. -/
inductive Replaces (w : List Char) : List Char → List Char → Prop
  | nil : Replaces w [] []
  | keep (c : Char) {s t : List Char} (h : Replaces w s t) : Replaces w (c :: s) (c :: t)
  | put (old : List Char) {c : Char} {new s t : List Char} (hc : c ∉ w)
      (hNew : ∀ d ∈ w.head?, d ∉ c :: new) (h : Replaces w s t) :
      Replaces w (old ++ s) (c :: new ++ t)

theorem Replaces.of_isPrefix (h : Replaces w s t) (hv : v ⊆ w) (hPrefix : v <+: t) : v <+: s := by
  induction h generalizing v with
  | nil => exact hPrefix
  | keep c h ih =>
    cases v with
    | nil => exact List.nil_prefix
    | cons d v =>
      obtain ⟨rfl, hRest⟩ := List.cons_prefix_cons.1 hPrefix
      exact List.cons_prefix_cons.2 ⟨rfl, ih (List.subset_of_cons_subset hv) hRest⟩
  | put old hc hNew h ih =>
    cases v with
    | nil => exact List.nil_prefix
    | cons d v =>
      obtain ⟨rfl, -⟩ := List.cons_prefix_cons.1 hPrefix
      exact absurd (hv (List.mem_cons_self ..)) hc

/-- A word that stands in a text with replacements stood there before them. -/
theorem Replaces.of_isInfix (h : Replaces w s t) (hInfix : w <:+: t) : w <:+: s := by
  induction h with
  | nil => exact hInfix
  | keep c h ih =>
    rcases List.infix_cons_iff.1 hInfix with hInfix | hInfix
    · exact (Replaces.keep c h).of_isPrefix (List.Subset.refl w) hInfix |>.isInfix
    · exact (ih hInfix).trans (List.suffix_cons ..).isInfix
  | put old hc hNew h ih =>
    cases w with
    | nil => exact List.nil_infix
    | cons d w =>
      have hRest := infix_of_not_mem_head hInfix (hNew d rfl)
      exact (ih hRest).trans (List.suffix_append ..).isInfix

end SvgBuilder.Text
