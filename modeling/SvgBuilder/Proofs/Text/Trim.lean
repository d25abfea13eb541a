import SvgBuilder.Text.Blank
import SvgBuilder.Text.Split

/-!
# Trimmed texts and their pieces

Trimming at the beginning and trimming at the end do not get into each other's way, and nothing is
left to trim behind them.  A separator that is not blank is not trimmed off, so a text and the
trimmed text have the same pieces once these are trimmed themselves.

## Main results

* `trim_trim`: a trimmed text is not trimmed any further.
* `map_trim_splitAt_trim`: the trimmed pieces of a trimmed text.
* `splitAt_append_cons`: the pieces before a separator and the pieces behind it.
-/

namespace SvgBuilder.Text

variable {c sep : Char} {s : List Char}

/-! ## Trimming -/

theorem trimEnd_cons_of_not_isBlank (hc : isBlank c = false) :
    trimEnd (c :: s) = c :: trimEnd s := by
  rw [trimEnd]
  split
  · next h => simp [hc, h]
  · rfl

theorem trimEnd_cons_of_ne_nil (c : Char) (h : trimEnd s ≠ []) :
    trimEnd (c :: s) = c :: trimEnd s := by
  rw [trimEnd]
  split
  · next hNil => exact absurd hNil h
  · rfl

theorem trimEnd_cons_of_isBlank (hc : isBlank c = true) (h : trimEnd s = []) :
    trimEnd (c :: s) = [] := by
  rw [trimEnd, h]
  exact if_pos hc

theorem mem_of_mem_trimEnd (h : c ∈ trimEnd s) : c ∈ s := by
  induction s with
  | nil => simp [trimEnd] at h
  | cons d s ih =>
      unfold trimEnd at h
      split at h
      · split at h
        · simp at h
        · simp_all
      · rcases List.mem_cons.1 h with rfl | h
        · simp
        · exact List.mem_cons_of_mem _ (ih h)

theorem mem_of_mem_trim (h : c ∈ trim s) : c ∈ s :=
  (List.dropWhile_suffix _).mem (mem_of_mem_trimEnd h)

theorem trimStart_cons_of_isBlank (hc : isBlank c = true) (s : List Char) :
    trimStart (c :: s) = trimStart s :=
  List.dropWhile_cons_of_pos hc

theorem trimStart_cons_of_not_isBlank (hc : isBlank c = false) (s : List Char) :
    trimStart (c :: s) = c :: s :=
  List.dropWhile_cons_of_neg (by simp [hc])

theorem trimStart_trimEnd (s : List Char) : trimStart (trimEnd s) = trimEnd (trimStart s) := by
  induction s with
  | nil => rfl
  | cons c s ih =>
    cases hc : isBlank c with
    | false =>
      rw [trimEnd_cons_of_not_isBlank hc, trimStart_cons_of_not_isBlank hc,
        trimStart_cons_of_not_isBlank hc, trimEnd_cons_of_not_isBlank hc]
    | true =>
      rw [trimStart_cons_of_isBlank hc, ← ih]
      by_cases hNil : trimEnd s = []
      · rw [trimEnd_cons_of_isBlank hc hNil, hNil]
      · rw [trimEnd_cons_of_ne_nil c hNil, trimStart_cons_of_isBlank hc]

theorem trimEnd_trimEnd (s : List Char) : trimEnd (trimEnd s) = trimEnd s := by
  induction s with
  | nil => rfl
  | cons c s ih =>
    by_cases hNil : trimEnd s = []
    · cases hc : isBlank c with
      | true => rw [trimEnd_cons_of_isBlank hc hNil, trimEnd]
      | false => rw [trimEnd_cons_of_not_isBlank hc, trimEnd_cons_of_not_isBlank hc, ih]
    · rw [trimEnd_cons_of_ne_nil c hNil, trimEnd_cons_of_ne_nil c (by rwa [ih]), ih]

theorem trimStart_trimStart (s : List Char) : trimStart (trimStart s) = trimStart s := by
  induction s with
  | nil => rfl
  | cons c s ih =>
    cases hc : isBlank c with
    | true => rw [trimStart_cons_of_isBlank hc, ih]
    | false => rw [trimStart_cons_of_not_isBlank hc, trimStart_cons_of_not_isBlank hc]

/-- A trimmed text is not trimmed any further. -/
theorem trim_trim (s : List Char) : trim (trim s) = trim s := by
  rw [trim, trim, trimStart_trimEnd, trimStart_trimStart, trimEnd_trimEnd]

theorem trim_trimEnd (s : List Char) : trim (trimEnd s) = trim s := by
  rw [trim, trimStart_trimEnd, trimEnd_trimEnd, trim]

/-! ## Pieces -/

/-- The pieces before a separator and the pieces behind it. -/
theorem splitAt_append_cons (sep : Char) (s t : List Char) :
    splitAt sep (s ++ sep :: t) = splitAt sep s ++ splitAt sep t := by
  induction s with
  | nil => simp [splitAt]
  | cons c s ih =>
    rw [List.cons_append, splitAt, splitAt, ih]
    by_cases hc : c = sep
    · rw [if_pos hc, if_pos hc, List.cons_append]
    · rw [if_neg hc, if_neg hc]
      cases hPieces : splitAt sep s with
      | nil => exact absurd hPieces (splitAt_ne_nil sep s)
      | cons piece pieces => rfl

theorem exists_splitAt_cons (hc : c ≠ sep) (s : List Char) :
    ∃ piece pieces, splitAt sep s = piece :: pieces ∧
      splitAt sep (c :: s) = (c :: piece) :: pieces := by
  obtain ⟨piece, pieces, hPieces⟩ := List.exists_cons_of_ne_nil (splitAt_ne_nil sep s)
  exact ⟨piece, pieces, hPieces, by rw [splitAt, if_neg hc, hPieces]⟩

theorem map_trim_splitAt_trimStart (hSep : isBlank sep = false) (s : List Char) :
    (splitAt sep (trimStart s)).map trim = (splitAt sep s).map trim := by
  induction s with
  | nil => rfl
  | cons c s ih =>
    cases hc : isBlank c with
    | false => rw [trimStart_cons_of_not_isBlank hc]
    | true =>
      have hNe : c ≠ sep := by
        rintro rfl
        exact nomatch hSep.symm.trans hc
      obtain ⟨piece, pieces, hPieces, hCons⟩ := exists_splitAt_cons hNe s
      rw [trimStart_cons_of_isBlank hc, ih, hCons, hPieces, List.map_cons, List.map_cons, trim, trim,
        trimStart_cons_of_isBlank hc]

/-- At the end of a text only its last piece is trimmed. -/
theorem map_trimEnd_splitAt_trimEnd (hSep : isBlank sep = false) (s : List Char) :
    (splitAt sep (trimEnd s)).map trimEnd = (splitAt sep s).map trimEnd := by
  induction s with
  | nil => rfl
  | cons c s ih =>
    by_cases hBoth : isBlank c = true ∧ trimEnd s = []
    · obtain ⟨hc, hNil⟩ := hBoth
      have hNe : c ≠ sep := by
        rintro rfl
        exact nomatch hSep.symm.trans hc
      obtain ⟨piece, pieces, hPieces, hCons⟩ := exists_splitAt_cons hNe s
      rw [hNil, hPieces, List.map_cons] at ih
      obtain ⟨hPiece, hNone⟩ := List.cons.inj ih
      rw [trimEnd_cons_of_isBlank hc hNil, hCons, List.map_cons, ← hNone,
        trimEnd_cons_of_isBlank hc hPiece.symm]
      rfl
    · have hKept : trimEnd (c :: s) = c :: trimEnd s := by
        by_cases hNil : trimEnd s = []
        · exact trimEnd_cons_of_not_isBlank (by simpa [hNil] using hBoth)
        · exact trimEnd_cons_of_ne_nil c hNil
      rw [hKept]
      by_cases hc : c = sep
      · rw [splitAt, if_pos hc, splitAt, if_pos hc, List.map_cons, List.map_cons, ih]
      · obtain ⟨piece, pieces, hPieces, hCons⟩ := exists_splitAt_cons hc s
        obtain ⟨piece', pieces', hPieces', hCons'⟩ := exists_splitAt_cons hc (trimEnd s)
        rw [hPieces, hPieces', List.map_cons, List.map_cons] at ih
        obtain ⟨hPiece, hRest⟩ := List.cons.inj ih
        rw [hCons, hCons', List.map_cons, List.map_cons, hRest, trimEnd, trimEnd, hPiece]

/-- The trimmed pieces of a text are those of the trimmed text. -/
theorem map_trim_splitAt_trim (hSep : isBlank sep = false) (s : List Char) :
    (splitAt sep (trim s)).map trim = (splitAt sep s).map trim := by
  have hEnd (s : List Char) : (splitAt sep (trimEnd s)).map trim = (splitAt sep s).map trim := by
    have hPieces := congrArg (List.map trim) (map_trimEnd_splitAt_trimEnd hSep s)
    simpa only [List.map_map, Function.comp_def, trim_trimEnd] using hPieces
  rw [trim, hEnd, map_trim_splitAt_trimStart hSep]

end SvgBuilder.Text
