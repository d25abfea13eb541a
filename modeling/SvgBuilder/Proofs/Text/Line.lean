import SvgBuilder.Text.Line

/-!
# Lines that are joined

Parts in which no line ends are the lines of the text that they are joined to by line feeds.

## Main results

* `lines_intercalate`: joined parts are found again as lines.
-/

namespace SvgBuilder.Text

theorem not_isLineBreak_of_all {s : List Char} (h : s.all (!isLineBreak ·) = true) :
    ∀ c ∈ s, isLineBreak c = false := by
  simpa using List.all_eq_true.1 h

section Part

variable {part : List Char} (h : ∀ c ∈ part, isLineBreak c = false)

include h

/-- No line ends within the part. -/
theorem piecesFrom_append (line rest : List Char) :
    piecesFrom line (part ++ rest) = piecesFrom (part.reverse ++ line) rest := by
  induction part generalizing line with
  | nil => rfl
  | cons c part ih =>
    have hc := h c List.mem_cons_self
    have hReturn : c ≠ '\r' := by
      rintro rfl
      exact absurd hc (by decide)
    rw [List.cons_append, piecesFrom, if_neg fun hPair => hReturn hPair.1, hc,
      if_neg Bool.false_ne_true, ih (fun d hd => h d (List.mem_cons_of_mem _ hd)),
      List.reverse_cons, List.append_assoc, List.singleton_append]

theorem pieces_line (rest : List Char) :
    pieces (part ++ '\n' :: rest) = (part ++ ['\n']) :: pieces rest := by
  rw [pieces, piecesFrom_append h, List.append_nil, piecesFrom, if_neg (by simp),
    if_pos (by decide), List.reverse_cons, List.reverse_reverse, pieces]

theorem pieces_last (hNil : part ≠ []) : pieces part = [part] := by
  have hWhole := piecesFrom_append h [] []
  rw [List.append_nil, List.append_nil] at hWhole
  have hSome : part.reverse.isEmpty = false := by simpa using hNil
  rw [pieces, hWhole, piecesFrom, hSome, if_neg Bool.false_ne_true, List.reverse_reverse]

theorem withoutBreak_line (ending : List Char) (hEnding : ending = [] ∨ ending = ['\n']) :
    withoutBreak (part ++ ending) = part := by
  rw [withoutBreak, List.takeWhile_append_of_pos fun c hc => by simp [h c hc]]
  rcases hEnding with rfl | rfl <;> simp [isLineBreak]

end Part

/-- Parts in which no line ends are the lines of the text that they are joined to. -/
theorem lines_intercalate {parts : List (List Char)}
    (h : ∀ part ∈ parts, ∀ c ∈ part, isLineBreak c = false) (hLast : parts.getLast? ≠ some []) :
    lines (List.intercalate ['\n'] parts) = parts := by
  induction parts with
  | nil => rfl
  | cons part parts ih =>
    have hPart := h part (by simp)
    cases parts with
    | nil =>
      have hNil : part ≠ [] := by
        rintro rfl
        exact hLast rfl
      have hWhole := withoutBreak_line hPart [] (.inl rfl)
      rw [List.append_nil] at hWhole
      rw [List.intercalate_singleton, lines, pieces_last hPart hNil, List.map_singleton, hWhole]
    | cons next parts =>
      have hRest := ih (fun p hp => h p (List.mem_cons_of_mem _ hp))
        (by rwa [List.getLast?_cons_cons] at hLast)
      rw [lines] at hRest
      rw [List.intercalate_cons_cons, List.append_assoc, List.singleton_append, lines,
        pieces_line hPart, List.map_cons, hRest, withoutBreak_line hPart _ (.inr rfl)]

end SvgBuilder.Text
