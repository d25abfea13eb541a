import SvgBuilder.Proofs.Diagnostic
import SvgBuilder.Transform.Reader

/-!
# Transform lists that are put together

The only end of a call is a closing parenthesis, and neither the name of a call nor the blanks nor
the arguments hold one.  So whatever begins in a text that ends with a closing parenthesis ends in
it, if it is a call, and no call goes on into the text behind.  The list in the joined text is the
list in the first text and then the one in the second text, and so is what is noted about them.

## Main results

* `callAt?_append`: whether a call begins a text is settled at the first closing parenthesis.
* `calls_append`: the calls in a text that is put together.
* `readList_append`: a transform list is read part by part.
-/

namespace SvgBuilder

open SvgBuilder.Text

/-! ## Runs that end -/

section Runs

variable {p : Char → Bool} {c : Char} {s : List Char}

theorem mem_dropWhile (h : c ∈ s) (hc : p c = false) : c ∈ s.dropWhile p := by
  rw [← List.takeWhile_append_dropWhile (p := p) (l := s)] at h
  rcases List.mem_append.1 h with hTake | hDrop
  · have hp := List.all_eq_true.1 List.all_takeWhile c hTake
    rw [hc] at hp
    cases hp
  · exact hDrop

/-- A run that ends in a text does not go on behind it. -/
theorem dropWhile_append_of_mem (h : c ∈ s) (hc : p c = false) (t : List Char) :
    (s ++ t).dropWhile p = s.dropWhile p ++ t := by
  have hSome : (s.dropWhile p).isEmpty = false :=
    List.isEmpty_eq_false_iff_exists_mem.2 ⟨c, mem_dropWhile h hc⟩
  rw [List.dropWhile_append, hSome]
  rfl

theorem takeWhile_append_of_mem (h : c ∈ s) (hc : p c = false) (t : List Char) :
    (s ++ t).takeWhile p = s.takeWhile p := by
  have hDrop := dropWhile_append_of_mem h hc t
  have hBoth : (s ++ t).takeWhile p ++ (s.dropWhile p ++ t) =
      s.takeWhile p ++ (s.dropWhile p ++ t) := by
    rw [← hDrop, List.takeWhile_append_dropWhile, hDrop, ← List.append_assoc,
      List.takeWhile_append_dropWhile]
  exact List.append_cancel_right hBoth

end Runs

/-! ## Calls -/

variable {u : List Char}

/-- The first closing parenthesis of a text settles whether it begins with a call, and with which
one. -/
theorem callAt?_append (h : ')' ∈ u) (v : List Char) : callAt? (u ++ v) = callAt? u := by
  have hWord : isWord ')' = false := by decide
  have hBlank : isBlank ')' = false := by decide
  have hArgument : Call.isArgument ')' = false := by decide
  have hName := mem_dropWhile h hWord
  have hGap := mem_dropWhile hName hBlank
  have hHead : (u ++ v).head? = u.head? := by
    cases u with
    | nil => exact absurd h List.not_mem_nil
    | cons c u => rfl
  unfold callAt?
  rw [hHead]
  by_cases hStart : (u.head?.map Call.isNameStart).getD false = true
  · rw [if_pos hStart, if_pos hStart, dropWhile_append_of_mem h hWord,
      takeWhile_append_of_mem h hWord]
    dsimp only
    rw [dropWhile_append_of_mem hName hBlank, takeWhile_append_of_mem hName hBlank]
    cases hBehind : (u.dropWhile isWord).dropWhile isBlank with
    | nil =>
      rw [hBehind] at hGap
      exact absurd hGap List.not_mem_nil
    | cons c t =>
      rw [List.cons_append]
      by_cases hOpen : c = '('
      · subst hOpen
        rw [hBehind] at hGap
        have hClose : ')' ∈ t := (List.mem_cons.1 hGap).resolve_left (by decide)
        have hAll : t.all Call.isArgument = false := List.all_eq_false.2 ⟨')', hClose, by decide⟩
        have hBoth : (t ++ v).all Call.isArgument = false := by rw [List.all_append, hAll]; rfl
        simp only [hAll, hBoth, takeWhile_append_of_mem hClose hArgument]
      · split
        · next hText => exact absurd (List.cons.inj hText).1 hOpen
        · split
          · next hText => exact absurd (List.cons.inj hText).1 hOpen
          · rfl
  · rw [if_neg hStart, if_neg hStart]

/-- What is found in a text that ends with a closing parenthesis is found in front of any other
text, and then the other text is searched from its beginning. -/
theorem callsFrom_append (v : List Char) {skip : Nat} (h : u.getLast?.all (· = ')') = true)
    (hSkip : skip ≤ u.length) : callsFrom skip (u ++ v) = callsFrom skip u ++ calls v := by
  induction u generalizing skip with
  | nil =>
    obtain rfl := Nat.le_zero.1 hSkip
    rfl
  | cons c s ih =>
    have hRest : s.getLast?.all (· = ')') = true := by
      cases s with
      | nil => rfl
      | cons d s => rwa [List.getLast?_cons_cons] at h
    rw [List.cons_append]
    cases skip with
    | succ skip => exact ih hRest (Nat.le_of_succ_le_succ hSkip)
    | zero =>
      have hClose : ')' ∈ c :: s := by
        obtain ⟨d, hLast⟩ : ∃ d, (c :: s).getLast? = some d :=
          ⟨_, List.getLast?_eq_some_getLast (List.cons_ne_nil c s)⟩
        rw [hLast] at h
        obtain rfl : d = ')' := by simpa using h
        exact List.mem_of_getLast? hLast
      have hSame : callAt? (c :: (s ++ v)) = callAt? (c :: s) := callAt?_append hClose v
      simp only [callsFrom, hSame]
      cases hCall : callAt? (c :: s) with
      | none => exact ih hRest (Nat.zero_le _)
      | some call =>
        obtain ⟨t, hText⟩ := callAt?_text_append hCall
        have hLength : call.text.length ≤ s.length + 1 := by
          rw [← List.length_cons, hText, List.length_append]
          exact Nat.le_add_right _ _
        exact congrArg (call :: ·) (ih hRest (Nat.sub_le_of_le_add hLength))

/-- The calls in two texts of which the first one ends with a closing parenthesis. -/
theorem calls_append (h : u.getLast? = some ')') (v : List Char) :
    calls (u ++ v) = calls u ++ calls v :=
  callsFrom_append v (by rw [h]; rfl) (Nat.zero_le _)

/-! ## Transforms -/

namespace Transform

/-- A transform list behind one that ends with a closing parenthesis: the transforms of the joined
text are those of its parts, and so are the notes, in order, whatever the texts hold besides
calls. -/
theorem readList_append (strict : Bool) {u : String} (h : u.toList.getLast? = some ')')
    (v : String) :
    (readList strict (u ++ v)).value = (readList strict u).value ++ (readList strict v).value ∧
    (readList strict (u ++ v)).notes = (readList strict u).notes ++ (readList strict v).notes := by
  have hCalls : calls (u ++ v).toList = calls u.toList ++ calls v.toList := by
    rw [String.toList_append, calls_append h]
  constructor
  · simp only [readList, Noted.value_bind, Noted.value_mapM, Noted.value_pure, hCalls,
      List.map_append, List.flatten_append]
  · simp only [readList, Noted.notes_bind, Noted.notes_mapM, Noted.notes_pure, hCalls,
      List.flatMap_append, List.append_nil]

/-- A call that is not closed before another one, a name that begins with a digit, and a function
that there is not; then an argument that is none, and letters where a name could go on. -/
theorem readList_append_garbage :
    "(x((2) 9rotate(1,2) no(3)".toList.getLast? = some ')' ∧
      (readList false ("(x((2) 9rotate(1,2) no(3)" ++ "y é)scale(4z)")).value =
        (readList false "(x((2) 9rotate(1,2) no(3)").value ++
          (readList false "y é)scale(4z)").value ∧
      (readList false ("(x((2) 9rotate(1,2) no(3)" ++ "y é)scale(4z)")).notes =
        (readList false "(x((2) 9rotate(1,2) no(3)").notes ++
          (readList false "y é)scale(4z)").notes ∧
      (readList false "(x((2) 9rotate(1,2) no(3)").value =
        [placeholder, .rotate (.ofNat 1) (some (.ofNat 2)) none, placeholder] ∧
      (readList false "y é)scale(4z)").value = [.scale .zero none] :=
  have hClosed : "(x((2) 9rotate(1,2) no(3)".toList.getLast? = some ')' := by decide
  have hParts := readList_append false hClosed "y é)scale(4z)"
  ⟨hClosed, hParts.1, hParts.2, by decide +kernel, by decide +kernel⟩

end Transform

end SvgBuilder
