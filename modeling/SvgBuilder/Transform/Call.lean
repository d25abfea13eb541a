import SvgBuilder.Text.Blank
import SvgBuilder.Text.Word

/-!
# Function calls in an attribute value

A call is a name, blanks, and arguments in parentheses.  The name begins with an ASCII letter or
an underscore and goes on with word characters, and the arguments reach to the first closing
parenthesis.  `calls` finds the calls of a value from left to right; what stands between them is
passed over.

## Main results

* `callAt?_text_append`: a call that is found is the beginning of the text.
-/

namespace SvgBuilder

open SvgBuilder.Text

/-- A function call as it is written. -/
structure Call where
  name : List Char
  /-- The blanks before the parenthesis. -/
  gap : List Char
  arguments : List Char
  deriving DecidableEq, Repr

namespace Call

/-- The text of the call. -/
def text (call : Call) : List Char :=
  call.name ++ call.gap ++ '(' :: call.arguments ++ [')']

/-- What arguments may hold. -/
def isArgument (c : Char) : Bool := c != ')'

/-- What a name may begin with. -/
def isNameStart (c : Char) : Bool := c.isAlpha || c = '_'

end Call

/-- The call that a text begins with. -/
def callAt? (s : List Char) : Option Call :=
  if (s.head?.map Call.isNameStart).getD false then
    let afterName := s.dropWhile isWord
    match afterName.dropWhile isBlank with
    | '(' :: t =>
      if t.all Call.isArgument then none
      else some ⟨s.takeWhile isWord, afterName.takeWhile isBlank, t.takeWhile Call.isArgument⟩
    | _ => none
  else none

/-- The calls in a text.  `skip` counts the characters that belong to the call before. -/
def callsFrom (skip : Nat) : List Char → List Call
  | [] => []
  | c :: s =>
    match skip with
    | skip + 1 => callsFrom skip s
    | 0 =>
      match callAt? (c :: s) with
      | some call => call :: callsFrom (call.text.length - 1) s
      | none => callsFrom 0 s

/-- The calls in a text, from left to right. -/
def calls (s : List Char) : List Call := callsFrom 0 s

/-- What follows arguments that do not reach to the end of the text. -/
theorem dropWhile_isArgument {t : List Char} (h : ¬t.all Call.isArgument = true) :
    ∃ u, t.dropWhile Call.isArgument = ')' :: u := by
  induction t with
  | nil => simp at h
  | cons c t ih =>
    by_cases hc : Call.isArgument c = true
    · obtain ⟨u, hu⟩ := ih (by simpa [hc] using h)
      exact ⟨u, by simp [hc, hu]⟩
    · refine ⟨t, ?_⟩
      have : c = ')' := by simpa [Call.isArgument] using hc
      simp [Call.isArgument, this]

theorem callAt?_text_append {s : List Char} {call : Call} (h : callAt? s = some call) :
    ∃ t, s = call.text ++ t := by
  unfold callAt? at h
  split at h
  · dsimp only at h
    split at h
    · next t ht =>
      split at h
      · simp at h
      · next hall =>
        obtain ⟨u, hu⟩ := dropWhile_isArgument hall
        refine ⟨u, ?_⟩
        obtain rfl := Option.some.inj h
        have h₁ : s = s.takeWhile isWord ++ s.dropWhile isWord :=
          List.takeWhile_append_dropWhile.symm
        have h₂ : s.dropWhile isWord = (s.dropWhile isWord).takeWhile isBlank ++ '(' :: t := by
          rw [← ht, List.takeWhile_append_dropWhile]
        have h₃ : t = t.takeWhile Call.isArgument ++ ')' :: u := by
          rw [← hu, List.takeWhile_append_dropWhile]
        calc s = s.takeWhile isWord ++ ((s.dropWhile isWord).takeWhile isBlank ++
                '(' :: (t.takeWhile Call.isArgument ++ ')' :: u)) := by rw [← h₃, ← h₂, ← h₁]
          _ = _ := by simp [Call.text]
    · simp at h
  · simp at h

end SvgBuilder
