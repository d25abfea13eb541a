import SvgBuilder.Proofs.Comparison.Epilog

/-!
# What of a module stands inside

A module is no document, but the same cuts are made at both of its ends: at its beginning items of a
prolog are dropped, and at its end comments, instructions and blanks.  Where neither a mark nor an
opening bracket follows the blanks at the beginning of a text, these are all that is dropped, and
where no closing bracket stands before the blanks at its end, these are all that is cut off.

## Main results

* `withoutEpilog_append`: only blanks are cut off behind a character that does not end a comment.
* `withoutProlog_plain`: nothing is dropped in front of a character that begins no item.
* `inside_append`: what is inside of a text with nothing but blanks to cut off.
-/

namespace SvgBuilder.Comparison

open SvgBuilder.Text

/-- An item is one blank, or ends with a closing bracket. -/
theorem behindMisc?_eq_some {s t : List Char} (h : behindMisc? s = some t) :
    ∃ item, s = item ++ t ∧ ((∃ c, item = [c] ∧ isBlank c = true) ∨ ∃ x, item = x ++ ['>']) := by
  rcases behindMisc?_eq_some_iff.1 h with ⟨c, hBlank, rfl⟩ | ⟨m, hm, u, x, rfl, hStop⟩
  · exact ⟨[c], rfl, .inl ⟨c, rfl, hBlank⟩⟩
  · obtain ⟨y, hEnd⟩ : ∃ y, m.2.toList = y ++ ['>'] := by
      simp only [miscMarks, List.mem_cons, List.not_mem_nil, or_false] at hm
      rcases hm with rfl | rfl
      · exact ⟨['?'], rfl⟩
      · exact ⟨['-', '-'], rfl⟩
    refine ⟨m.1.toList ++ (x ++ m.2.toList), ?_, .inr ⟨m.1.toList ++ (x ++ y), ?_⟩⟩
    · simp only [upTo_append hStop, List.append_assoc]
    · simp only [hEnd, List.append_assoc]

section Epilog

variable {c : Char} {y : List Char} (hc : isBlank c = false) (hEnd : c ≠ '>')
  (hy : ∀ d ∈ y, isBlank d = true)

include hc hEnd hy

/-- The last character of an epilog that is not blank ends a comment or an instruction. -/
theorem not_isMisc (x : List Char) : isMisc (x ++ c :: y) = false := by
  generalize hText : x ++ c :: y = s
  fun_induction isMisc s generalizing x with
  | case1 s t h ih =>
    obtain ⟨item, rfl, hItem⟩ := behindMisc?_eq_some h
    rcases List.append_eq_append_iff.1 hText with ⟨tail, rfl, hTail⟩ | ⟨tail, rfl, hTail⟩
    · cases tail with
      | nil => exact ih [] hTail
      | cons d tail =>
        -- the item holds the character, so it is not a blank and ends behind it
        obtain ⟨rfl, rfl⟩ := List.cons.inj hTail
        rcases hItem with ⟨d, hSingle, hBlank⟩ | ⟨z, hLast⟩
        · obtain ⟨rfl, hSame⟩ : x = [] ∧ c :: tail = [d] := by
            cases x with
            | nil => exact ⟨rfl, hSingle⟩
            | cons e x => simp at hSingle
          obtain ⟨rfl, -⟩ := List.cons.inj hSame
          rw [hc] at hBlank
          exact absurd hBlank Bool.false_ne_true
        · rcases List.eq_nil_or_concat tail with rfl | ⟨tail, e, rfl⟩
          · exact absurd (List.cons.inj (List.append_inj_right' hLast rfl)).1 hEnd
          · have hClose : e = '>' := by
              rw [List.concat_eq_append, ← List.cons_append, ← List.append_assoc] at hLast
              exact (List.cons.inj (List.append_inj_right' hLast rfl)).1
            have hBlank := hy e (by simp)
            rw [hClose] at hBlank
            exact absurd hBlank (by decide)
    · exact ih tail hTail.symm
  | case2 s h =>
    subst hText
    cases x <;> rfl

/-- Only the blanks are cut off behind a character that does not end a comment. -/
theorem withoutEpilog_append (x : List Char) : withoutEpilog (x ++ c :: y) = x ++ [c] := by
  induction x with
  | nil =>
    have hMisc := not_isMisc hc hEnd hy []
    have hRest : withoutEpilog y = [] := by
      cases y with
      | nil => rfl
      | cons d y =>
        have hBlanks := (skips_blanks hy []).isMisc
        rw [List.append_nil, isMisc_nil] at hBlanks
        rw [withoutEpilog, if_pos hBlanks]
    rw [List.nil_append] at hMisc ⊢
    rw [withoutEpilog, hMisc, hRest]
    rfl
  | cons d x ih =>
    have hMisc := not_isMisc hc hEnd hy (d :: x)
    rw [List.cons_append] at hMisc ⊢
    rw [withoutEpilog, hMisc, ih]
    rfl

end Epilog

section Plain

variable {c : Char} (hBlank : isBlank c = false) (hMark : c ≠ '\uFEFF') (hOpen : c ≠ '<')

include hBlank hMark hOpen

/-- Nothing is dropped from a text that begins with a character that begins no item. -/
theorem withoutProlog_plain (s : List Char) : withoutProlog (c :: s) = c :: s := by
  have hOpening (opening : String) (h : ∃ rest, opening.toList = '<' :: rest) :
      behind? opening (c :: s) = none := by
    cases hBehind : behind? opening (c :: s) with
    | none => rfl
    | some t =>
      obtain ⟨rest, hText⟩ := h
      have hStart := behind?_eq_some_iff.1 hBehind
      rw [hText] at hStart
      exact absurd (List.cons.inj hStart).1 hOpen
  have hMisc : behindMisc? (c :: s) = none := by
    rw [behindMisc?, hBlank, hOpening "<?" ⟨_, rfl⟩, hOpening "<!--" ⟨_, rfl⟩]
    rfl
  have hDoctype : behindDoctype? (c :: s) = none := by
    rw [behindDoctype?, hOpening "<!DOCTYPE" ⟨_, rfl⟩]
    rfl
  refine withoutProlog_eq_self ?_
  unfold behindPrologItem?
  split
  · next hText => exact absurd (List.cons.inj hText).1 hMark
  · rw [hDoctype, hMisc]
    rfl

/-- What is inside of a text with blanks at both ends, if no item and no epilog stand in it. -/
theorem inside_append {d : Char} {blanks y : List Char} (hBlanks : ∀ e ∈ blanks, isBlank e = true)
    (hd : isBlank d = false) (hEnd : d ≠ '>') (hy : ∀ e ∈ y, isBlank e = true) (x : List Char) :
    inside (blanks ++ (c :: x ++ d :: y)) = c :: x ++ [d] := by
  rw [inside, (skips_blanks hBlanks _).withoutProlog, List.cons_append,
    withoutProlog_plain hBlank hMark hOpen]
  exact withoutEpilog_append hd hEnd hy (c :: x)

end Plain

end SvgBuilder.Comparison
