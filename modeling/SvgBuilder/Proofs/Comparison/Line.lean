import SvgBuilder.Proofs.Builder.Rendering
import SvgBuilder.Proofs.Source.Indentation

/-!
# Lines of a module

Every argument of a builder call begins a line, with spaces before it.  However often the text is
indented, what begins a line goes on to do so: indentation puts spaces between characters, and only
behind the end of a line.  `Spaced` is all that most statements have to know of indentation, and
`Begins` says that a word begins a line of a text.

## Main results

* `spaced_indented`: indentation puts spaces between characters.
* `Begins.indented`: a word without an end of line begins a line of the indented text, too.
* `Begins.content`, `Begins.callText`: arguments begin lines of a call.
-/

namespace SvgBuilder

open SvgBuilder.Text SvgBuilder.Source

/-! ## Spaces between characters -/

/-- A text with spaces put between its characters. -/
inductive Spaced : List Char → List Char → Prop
  | nil : Spaced [] []
  | keep (c : Char) {s t : List Char} (h : Spaced s t) : Spaced (c :: s) (c :: t)
  | space {s t : List Char} (h : Spaced s t) : Spaced s (' ' :: t)

namespace Spaced

variable {a b m s t w : List Char} {c : Char}

theorem margin (hm : IsMargin m) (h : Spaced s t) : Spaced s (m ++ t) := by
  induction m with
  | nil => exact h
  | cons c m ih =>
    obtain rfl := hm c (by simp)
    exact .space (ih fun d hd => hm d (List.mem_cons_of_mem _ hd))

theorem exists_of_cons (h : Spaced (c :: s) t) :
    ∃ m t', t = m ++ c :: t' ∧ IsMargin m ∧ Spaced s t' := by
  generalize hText : c :: s = text at h
  induction h with
  | nil => exact nomatch hText
  | keep d h ih =>
    obtain ⟨rfl, rfl⟩ := List.cons.inj hText
    exact ⟨[], _, rfl, fun _ hd => absurd hd List.not_mem_nil, h⟩
  | space h ih =>
    obtain ⟨m, t', rfl, hm, hRest⟩ := ih hText
    exact ⟨' ' :: m, t', rfl, by simpa [IsMargin] using hm, hRest⟩

/-- The parts of a text with spaces in them. -/
theorem exists_of_append (h : Spaced (a ++ b) t) :
    ∃ a' b', t = a' ++ b' ∧ Spaced a a' ∧ Spaced b b' := by
  induction a generalizing t with
  | nil => exact ⟨[], t, rfl, .nil, h⟩
  | cons c a ih =>
    obtain ⟨m, t', rfl, hm, hRest⟩ := exists_of_cons h
    obtain ⟨a', b', rfl, ha, hb⟩ := ih hRest
    exact ⟨m ++ c :: a', b', by simp, margin hm (.keep c ha), hb⟩

/-- The parts that a text with spaces in it comes from. -/
theorem exists_of_append_right (h : Spaced s (a ++ b)) :
    ∃ a' b', s = a' ++ b' ∧ Spaced a' a ∧ Spaced b' b := by
  induction a generalizing s with
  | nil => exact ⟨[], s, rfl, .nil, h⟩
  | cons c a ih =>
    cases h with
    | keep _ h =>
      obtain ⟨a', b', rfl, ha, hb⟩ := ih h
      exact ⟨c :: a', b', rfl, .keep c ha, hb⟩
    | space h =>
      obtain ⟨a', b', rfl, ha, hb⟩ := ih h
      exact ⟨a', b', rfl, .space ha, hb⟩

/-- A word without a space has not been put together by spaces. -/
theorem exists_of_word (hw : ' ' ∉ w) (h : Spaced s (w ++ b)) :
    ∃ b', s = w ++ b' ∧ Spaced b' b := by
  induction w generalizing s with
  | nil => exact ⟨s, rfl, h⟩
  | cons c w ih =>
    obtain ⟨hc, hRest⟩ := not_or.1 (mt List.mem_cons.2 hw)
    cases h with
    | keep _ h =>
      obtain ⟨b', rfl, hb⟩ := ih hRest h
      exact ⟨b', rfl, hb⟩
    | space h => exact absurd rfl hc

theorem mem (h : Spaced s t) (hc : c ≠ ' ') (hMem : c ∈ t) : c ∈ s := by
  induction h with
  | nil => exact hMem
  | keep d h ih => exact List.mem_cons.2 ((List.mem_cons.1 hMem).imp id ih)
  | space h ih => exact ih ((List.mem_cons.1 hMem).resolve_left hc)

end Spaced

/-! ## Indentation -/

section Indentation

variable {margin : List Char} (hm : IsMargin margin)

include hm

theorem spaced_lineMargin {s t : List Char} (h : Spaced s t) (text : List Char) :
    Spaced s (lineMargin margin text ++ t) :=
  h.margin fun c hc => hm c (lineMargin_subset text c hc)

/-- Indentation of a text with another one behind it. -/
theorem indentTail_append (u t : List Char) :
    ∃ u', indentTail margin (u ++ t) = u' ++ indentTail margin t ∧ Spaced u u' := by
  induction u with
  | nil => exact ⟨[], rfl, .nil⟩
  | cons c u ih =>
    obtain ⟨u', hRest, hSpaced⟩ := ih
    rw [List.cons_append, indentTail, hRest]
    split
    · exact ⟨c :: (lineMargin margin (u ++ t) ++ u'), by simp,
        .keep c (spaced_lineMargin hm hSpaced _)⟩
    · exact ⟨c :: u', rfl, .keep c hSpaced⟩

theorem spaced_indentTail (s : List Char) : Spaced s (indentTail margin s) := by
  obtain ⟨s', hText, hSpaced⟩ := indentTail_append hm s []
  rw [List.append_nil] at hText
  rwa [hText, indentTail, List.append_nil]

omit hm in
theorem indentTail_word {w : List Char} (hw : ∀ c ∈ w, isLineBreak c = false) (v : List Char) :
    indentTail margin (w ++ v) = w ++ indentTail margin v := by
  induction w with
  | nil => rfl
  | cons c w ih =>
    have hRest := ih fun d hd => hw d (List.mem_cons_of_mem _ hd)
    rw [List.cons_append, indentTail_cons_of_not_endsLine (endsLine_eq_false (hw c (by simp)) _),
      hRest, List.cons_append]

end Indentation

/-- Indentation puts spaces between characters. -/
theorem spaced_indented {margin : String} (hm : IsMargin margin.toList) (s : String) :
    Spaced s.toList (indented margin s).toList := by
  rw [toList_indented]
  exact spaced_lineMargin hm (spaced_indentTail hm _) _

/-! ## Beginnings of lines -/

/-- Whether what stands behind a text begins a line, spaces not counted.  `fresh` says so of the
text itself. -/
def linesUp (fresh : Bool) : List Char → Bool
  | [] => fresh
  | c :: s => linesUp (c = '\n' || (fresh && c = ' ')) s

theorem linesUp_append (fresh : Bool) (s t : List Char) :
    linesUp fresh (s ++ t) = linesUp (linesUp fresh s) t := by
  induction s generalizing fresh with
  | nil => rfl
  | cons c s ih => exact ih _

theorem linesUp_spaced {s t : List Char} (h : Spaced s t) (fresh : Bool) :
    linesUp fresh t = linesUp fresh s := by
  induction h generalizing fresh with
  | nil => rfl
  | keep c h ih => exact ih _
  | space h ih => simpa [linesUp] using ih fresh

theorem linesUp_of_false {s : List Char} (h : linesUp false s = true) : linesUp true s = true := by
  induction s with
  | nil => cases h
  | cons c s ih =>
    simp only [linesUp, Bool.false_and, Bool.or_false, Bool.true_and] at h ⊢
    by_cases hBreak : c = '\n'
    · simpa [hBreak] using h
    · rw [decide_eq_false hBreak] at h ⊢
      cases decide (c = ' ') with
      | false => exact h
      | true => exact ih h

/-- Whether a word begins a line of a text, spaces not counted. -/
def Begins (w s : List Char) : Prop := ∃ u v, s = u ++ w ++ v ∧ linesUp true u = true

namespace Begins

variable {s w x y : List Char}

theorem head (w v : List Char) : Begins w (w ++ v) := ⟨[], v, rfl, rfl⟩

theorem append (h : Begins w s) (y : List Char) : Begins w (s ++ y) := by
  obtain ⟨u, v, rfl, hu⟩ := h
  exact ⟨u, v ++ y, by simp, hu⟩

theorem behind (hx : linesUp true x = true) (h : Begins w s) : Begins w (x ++ s) := by
  obtain ⟨u, v, rfl, hu⟩ := h
  exact ⟨x ++ u, v, by simp, by rw [linesUp_append, hx, hu]⟩

/-- What begins a line does so, too, when blanks are taken away from the beginning of the text. -/
theorem of_blanks {c : Char} {blanks : List Char} (hBlanks : ∀ d ∈ blanks, isBlank d = true)
    (hc : isBlank c = false) (h : Begins (c :: w) (blanks ++ s)) : Begins (c :: w) s := by
  obtain ⟨u, v, hText, hu⟩ := h
  rw [List.append_assoc] at hText
  rcases List.append_eq_append_iff.1 hText with ⟨u', rfl, rfl⟩ | ⟨tail, rfl, hTail⟩
  · refine ⟨u', v, (List.append_assoc ..).symm, ?_⟩
    rw [linesUp_append] at hu
    cases hFresh : linesUp true blanks with
    | true => rwa [hFresh] at hu
    | false => exact linesUp_of_false (hFresh ▸ hu)
  · cases tail with
    | nil => exact ⟨[], v, hTail.symm, rfl⟩
    | cons d tail =>
      -- the word would begin among the blanks
      have hBlank := hBlanks d (by simp)
      rw [← (List.cons.inj hTail).1, hc] at hBlank
      cases hBlank

/-- What begins a line goes on to do so when the text is indented. -/
theorem indented {margin s : String} (hm : IsMargin margin.toList)
    (hw : ∀ c ∈ w, isLineBreak c = false) (h : Begins w s.toList) :
    Begins w (indented margin s).toList := by
  obtain ⟨u, v, hText, hu⟩ := h
  obtain ⟨u', hIndented, hSpaced⟩ := indentTail_append hm u (w ++ v)
  have hFirst := spaced_lineMargin hm hSpaced s.toList
  refine ⟨lineMargin margin.toList s.toList ++ u', indentTail margin.toList v, ?_, ?_⟩
  · rw [toList_indented, hText, List.append_assoc, hIndented, indentTail_word hw]
    simp
  · rw [linesUp_spaced hFirst, hu]

/-- An argument begins a line among the arguments of a call. -/
theorem content {item : Item} {items : List Item} (hItem : item ∈ items)
    (h : Begins w item.render.toList) : Begins w (Item.content items).toList := by
  induction items with
  | nil => exact absurd hItem List.not_mem_nil
  | cons first items ih =>
    cases items with
    | nil =>
      obtain rfl := List.mem_singleton.1 hItem
      simpa [Item.content, Item.renders, joined] using h
    | cons next items =>
      rw [content_cons, String.toList_append, String.toList_append]
      rcases List.mem_cons.1 hItem with rfl | hItem
      · rw [List.append_assoc]
        exact h.append _
      · refine behind ?_ (ih hItem)
        rw [linesUp_append]
        simp [itemSeparator, linesUp]

/-- The arguments of a call begin lines of the call. -/
theorem callText {content : String} (label : String) (hw : ∀ c ∈ w, isLineBreak c = false)
    (h : Begins w content.toList) : Begins w (callText label content).toList := by
  unfold SvgBuilder.callText
  split
  · next hEmpty =>
    obtain ⟨u, v, hText, -⟩ := h
    rw [hEmpty] at hText
    obtain rfl : w = [] := by simp_all
    exact head [] _
  · have hMargin : IsMargin itemMargin.toList := by decide
    have hIndented := h.indented hMargin hw
    rw [String.toList_append, String.toList_append]
    refine (hIndented.behind ?_).append _
    rw [String.toList_append, linesUp_append]
    rfl

end Begins

end SvgBuilder
