import SvgBuilder.Transform.Call

/-!
# Finding the calls of a list

A call without blanks before its parenthesis, whose name and arguments hold what such names and
arguments may hold, is found where it is written, and what follows it is searched on.  So the calls
that are written with blanks between them are the calls that are found.

## Main results

* `callsFrom_text_append`: a call that begins the text is found.
* `calls_intercalate`: calls with blanks between them are found, in order.
-/

namespace SvgBuilder

open SvgBuilder.Text

namespace Call

/-- A call in the form that it is written in. -/
structure IsPlain (call : Call) : Prop where
  start : (call.name.head?.map isNameStart).getD false = true
  name : ∀ c ∈ call.name, isWord c = true
  gap : call.gap = []
  arguments : ∀ c ∈ call.arguments, isArgument c = true

end Call

variable {call : Call}

theorem text_of_isPlain (h : call.IsPlain) :
    call.text = call.name ++ '(' :: (call.arguments ++ [')']) := by
  rw [Call.text, h.gap, List.append_nil, List.append_assoc, List.cons_append]

theorem callAt?_text_of_isPlain (h : call.IsPlain) (rest : List Char) :
    callAt? (call.text ++ rest) = some call := by
  have hText : call.text ++ rest =
      call.name ++ '(' :: (call.arguments ++ ')' :: rest) := by
    rw [text_of_isPlain h]
    simp
  have hParenthesis : isWord '(' = false := by decide
  have hBlank : isBlank '(' = false := by decide
  have hClosing : Call.isArgument ')' = false := by decide
  have hStart : ((call.name ++ '(' :: (call.arguments ++ ')' :: rest)).head?.map
      Call.isNameStart).getD false = true := by
    have hName := h.start
    cases hCases : call.name with
    | nil =>
      rw [hCases] at hName
      exact nomatch hName
    | cons c name =>
      rw [hCases] at hName
      exact hName
  have hTake : (call.name ++ '(' :: (call.arguments ++ ')' :: rest)).takeWhile isWord =
      call.name := by
    rw [List.takeWhile_append_of_pos h.name, List.takeWhile_cons_of_neg (by simp [hParenthesis]),
      List.append_nil]
  have hDrop : (call.name ++ '(' :: (call.arguments ++ ')' :: rest)).dropWhile isWord =
      '(' :: (call.arguments ++ ')' :: rest) := by
    rw [List.dropWhile_append_of_pos h.name, List.dropWhile_cons_of_neg (by simp [hParenthesis])]
  have hArguments : (call.arguments ++ ')' :: rest).takeWhile Call.isArgument =
      call.arguments := by
    rw [List.takeWhile_append_of_pos h.arguments, List.takeWhile_cons_of_neg (by simp [hClosing]),
      List.append_nil]
  have hAll : (call.arguments ++ ')' :: rest).all Call.isArgument = false := by
    simp [List.all_append, hClosing]
  rw [hText, callAt?, if_pos hStart, hTake, hDrop]
  dsimp only
  rw [List.dropWhile_cons_of_neg (by simp [hBlank]),
    List.takeWhile_cons_of_neg (by simp [hBlank])]
  simp only [hAll, hArguments, Bool.false_eq_true, if_false]
  rw [← h.gap]

theorem callsFrom_length_append (s rest : List Char) :
    callsFrom s.length (s ++ rest) = callsFrom 0 rest := by
  induction s with
  | nil => rfl
  | cons c s ih => exact ih

/-- A call that begins the text is found. -/
theorem callsFrom_text_append (h : call.IsPlain) (rest : List Char) :
    callsFrom 0 (call.text ++ rest) = call :: callsFrom 0 rest := by
  have hCall := callAt?_text_of_isPlain h rest
  obtain ⟨c, s, hText⟩ : ∃ c s, call.text = c :: s :=
    List.exists_cons_of_ne_nil (by simp [Call.text])
  rw [hText, List.cons_append] at hCall ⊢
  simp only [callsFrom, hCall, hText]
  exact congrArg (call :: ·) (callsFrom_length_append s rest)

theorem callsFrom_blank (s : List Char) : callsFrom 0 (' ' :: s) = callsFrom 0 s := by
  have hBlank : callAt? (' ' :: s) = none := rfl
  simp only [callsFrom, hBlank]

/-- Calls with blanks between them are found, in order. -/
theorem calls_intercalate {cs : List Call} (h : ∀ call ∈ cs, call.IsPlain) :
    calls (List.intercalate [' '] (cs.map Call.text)) = cs := by
  unfold calls
  induction cs with
  | nil => rfl
  | cons call cs ih =>
    have hCall := h call (by simp)
    have hRest := ih fun c hc => h c (List.mem_cons_of_mem _ hc)
    cases cs with
    | nil =>
      have hFound := callsFrom_text_append hCall []
      rw [List.append_nil] at hFound
      rw [List.map_singleton, List.intercalate_singleton, hFound]
      rfl
    | cons next cs =>
      rw [List.map_cons, List.map_cons, List.intercalate_cons_cons, List.append_assoc,
        callsFrom_text_append hCall, List.singleton_append, callsFrom_blank]
      exact congrArg (call :: ·) hRest

end SvgBuilder
