import SvgBuilder.Text.Blank
import SvgBuilder.Text.Split

/-!
# Splitting what was joined

Pieces without the separator are found again in the text that they are joined to, and text without
a blank is one word.  Trimming does not change the words of a text.

## Main results

* `splitAt_intercalate`: joined pieces are split at their separators.
* `splitAt_filter`: leaving characters out commutes with splitting.
* `words_eq_singleton`: text without a blank is its only word.
* `words_trim`, `words_eq_nil_iff`: words and trimming go by the same blanks.
-/

namespace SvgBuilder.Text

variable {sep : Char}

theorem splitAt_eq_singleton {α : Type} [DecidableEq α] {sep : α} {piece : List α} (h : sep ∉ piece) :
    splitAt sep piece = [piece] := by
  induction piece with
  | nil => rfl
  | cons c piece ih =>
    obtain ⟨hc, hPiece⟩ := not_or.1 (mt List.mem_cons.2 h)
    rw [splitAt, if_neg (Ne.symm hc), ih hPiece]

/-- The pieces of a text consist of what the text consists of. -/
theorem mem_of_mem_splitAt {α : Type} [DecidableEq α] {sep c : α} {s piece : List α}
    (h : piece ∈ splitAt sep s) (hc : c ∈ piece) : c ∈ s := by
  induction s generalizing piece with
  | nil =>
    rw [splitAt, List.mem_singleton] at h
    exact h ▸ hc
  | cons d s ih =>
    obtain ⟨first, pieces, hSplit⟩ := List.exists_cons_of_ne_nil (splitAt_ne_nil sep s)
    rw [hSplit] at ih
    rw [splitAt, hSplit] at h
    split at h
    · rcases List.mem_cons.1 h with rfl | h
      · exact absurd hc List.not_mem_nil
      · exact List.mem_cons_of_mem d (ih h hc)
    · rcases List.mem_cons.1 h with rfl | h
      · exact List.mem_cons.2 ((List.mem_cons.1 hc).imp_right (ih List.mem_cons_self))
      · exact List.mem_cons_of_mem d (ih (List.mem_cons_of_mem first h) hc)

theorem splitAt_append {piece : List Char} (h : sep ∉ piece) (s : List Char) :
    splitAt sep (piece ++ sep :: s) = piece :: splitAt sep s := by
  induction piece with
  | nil => rw [List.nil_append, splitAt, if_pos rfl]
  | cons c piece ih =>
    obtain ⟨hc, hPiece⟩ := not_or.1 (mt List.mem_cons.2 h)
    rw [List.cons_append, splitAt, if_neg (Ne.symm hc), ih hPiece]

/-- Joined pieces are split at their separators. -/
theorem splitAt_intercalate {pieces : List (List Char)} (hNil : pieces ≠ [])
    (h : ∀ piece ∈ pieces, sep ∉ piece) :
    splitAt sep (List.intercalate [sep] pieces) = pieces := by
  induction pieces with
  | nil => exact absurd rfl hNil
  | cons piece pieces ih =>
    have hPiece := h piece (by simp)
    cases pieces with
    | nil => rw [List.intercalate_singleton, splitAt_eq_singleton hPiece]
    | cons next pieces =>
      have hRest := ih (List.cons_ne_nil _ _) fun p hp => h p (List.mem_cons_of_mem _ hp)
      rw [List.intercalate_cons_cons, List.append_assoc, List.singleton_append,
        splitAt_append hPiece, hRest]

/-- What is left of the text when it keeps its separators is split as the text is. -/
theorem splitAt_filter {p : Char → Bool} (h : p sep = true) (s : List Char) :
    splitAt sep (s.filter p) = (splitAt sep s).map (List.filter p) := by
  induction s with
  | nil => rfl
  | cons c s ih =>
    by_cases hSep : c = sep
    · subst hSep
      rw [List.filter_cons_of_pos h, splitAt, if_pos rfl, splitAt, if_pos rfl, ih, List.map_cons]
      rfl
    · have hRest (t : List Char) (hSplit : splitAt sep t ≠ []) : splitAt sep (c :: t) =
          (c :: (splitAt sep t).head hSplit) :: (splitAt sep t).tail := by
        rw [splitAt, if_neg hSep]
        split
        · next hNil => exact absurd hNil hSplit
        · next hCons => simp [hCons]
      rw [hRest s (splitAt_ne_nil sep s)]
      by_cases hc : p c = true
      · rw [List.filter_cons_of_pos hc, hRest _ (splitAt_ne_nil sep _), List.map_cons,
          List.filter_cons_of_pos hc]
        simp [ih, List.head_map, List.map_tail]
      · rw [List.filter_cons_of_neg hc, ih, List.map_cons, List.filter_cons_of_neg hc,
          ← List.map_cons, List.cons_head_tail]

/-- Joined pieces hold what the pieces and the separator hold. -/
theorem forall_mem_intercalate {p : Char → Prop} {separator : List Char}
    {pieces : List (List Char)} (hSeparator : ∀ c ∈ separator, p c)
    (h : ∀ piece ∈ pieces, ∀ c ∈ piece, p c) : ∀ c ∈ List.intercalate separator pieces, p c := by
  induction pieces with
  | nil => exact fun c hc => absurd hc List.not_mem_nil
  | cons piece pieces ih =>
    have hPiece := h piece (by simp)
    have hRest := ih fun q hq => h q (List.mem_cons_of_mem _ hq)
    cases pieces with
    | nil => simpa using hPiece
    | cons next pieces =>
      intro c hc
      rw [List.intercalate_cons_cons, List.mem_append, List.mem_append] at hc
      rcases hc with (hc | hc) | hc
      · exact hPiece c hc
      · exact hSeparator c hc
      · exact hRest c hc

theorem wordsFrom_eq_singleton {s : List Char} (h : ∀ c ∈ s, isBlank c = false)
    (word : List Char) (hNil : word ≠ [] ∨ s ≠ []) :
    wordsFrom word s = [word.reverse ++ s] := by
  induction s generalizing word with
  | nil =>
    have hWord : word.isEmpty = false := by simpa using hNil
    simp [wordsFrom, hWord]
  | cons c s ih =>
    have hc : isBlank c = false := h c (by simp)
    rw [wordsFrom, if_neg (by simp [hc]),
      ih (fun d hd => h d (List.mem_cons_of_mem _ hd)) (c :: word) (.inl (List.cons_ne_nil _ _))]
    simp

/-- Text without a blank is its only word. -/
theorem words_eq_singleton {s : List Char} (h : ∀ c ∈ s, isBlank c = false) (hNil : s ≠ []) :
    words s = [s] :=
  wordsFrom_eq_singleton h [] (.inr hNil)

/-! ## Words of trimmed texts -/

theorem words_trimStart (s : List Char) : words (trimStart s) = words s := by
  induction s with
  | nil => rfl
  | cons c s ih =>
    by_cases hc : isBlank c = true
    · rw [trimStart, List.dropWhile_cons_of_pos hc, words, words, wordsFrom, if_pos hc]
      exact ih
    · rw [trimStart, List.dropWhile_cons_of_neg hc]

/-- What is cut off the end does not add to the word that has begun. -/
theorem wordsFrom_trimEnd (word s : List Char) : wordsFrom word (trimEnd s) = wordsFrom word s := by
  induction s generalizing word with
  | nil => rfl
  | cons c s ih =>
    rw [trimEnd]
    cases hRest : trimEnd s with
    | cons d t =>
      dsimp only
      rw [← hRest, wordsFrom, wordsFrom, ih, ih]
    | nil =>
      have hNone (word : List Char) : wordsFrom word s = wordsFrom word [] := by
        rw [← ih, hRest]
      dsimp only
      by_cases hc : isBlank c = true
      · rw [if_pos hc, wordsFrom, wordsFrom, if_pos hc, hNone]
        rfl
      · have hOn (t : List Char) : wordsFrom word (c :: t) = wordsFrom (c :: word) t := by
          rw [wordsFrom, if_neg hc]
        rw [if_neg hc, hOn, hOn, hNone]

/-- Trimming a text does not change its words. -/
theorem words_trim (s : List Char) : words (trim s) = words s := by
  rw [trim, words, wordsFrom_trimEnd]
  exact words_trimStart s

theorem wordsFrom_ne_nil {word s : List Char} (h : word ≠ [] ∨ ∃ c ∈ s, isBlank c = false) :
    wordsFrom word s ≠ [] := by
  induction s generalizing word with
  | nil =>
    have hWord : word ≠ [] := h.resolve_right (by simp)
    simp [wordsFrom, hWord]
  | cons c s ih =>
    rw [wordsFrom]
    split
    · next hc =>
      split
      · next hWord =>
        refine ih (.inr ?_)
        obtain ⟨d, hd, hBlank⟩ := h.resolve_left fun hNil => hNil (List.isEmpty_iff.1 hWord)
        refine ⟨d, (List.mem_cons.1 hd).resolve_left ?_, hBlank⟩
        rintro rfl
        rw [hc] at hBlank
        cases hBlank
      · exact List.cons_ne_nil _ _
    · exact ih (.inl (List.cons_ne_nil _ _))

/-- A text without words is trimmed to nothing. -/
theorem words_eq_nil_iff {s : List Char} : words s = [] ↔ trim s = [] := by
  rw [trim_eq_nil_iff]
  constructor
  · intro h c hc
    cases hBlank : isBlank c with
    | true => rfl
    | false => exact absurd h (wordsFrom_ne_nil (.inr ⟨c, hc, hBlank⟩))
  · intro h
    rw [← words_trim, trim_eq_nil_iff.2 h]
    rfl

end SvgBuilder.Text
