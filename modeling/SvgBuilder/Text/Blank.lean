/-!
# Blank characters

The blank characters are the white space of Unicode together with the four information
separators of ASCII.  This file trims text at its ends and splits it into words.

## Main results

* `not_isBlank_of_mem_words`: no word holds a blank character.
* `trim_eq_nil_iff`: text is trimmed to nothing exactly when all of it is blank.
-/

namespace SvgBuilder.Text

/-- White space: the controls from tab to carriage return, the four information separators,
the next-line control and the Unicode separators. -/
def isBlank (c : Char) : Bool :=
  let n := c.toNat
  (9 ≤ n && n ≤ 13) || (28 ≤ n && n ≤ 32) || n = 0x85 || n = 0xA0 || n = 0x1680 ||
    (0x2000 ≤ n && n ≤ 0x200A) || n = 0x2028 || n = 0x2029 || n = 0x202F || n = 0x205F ||
    n = 0x3000

/-! ## Trimming -/

/-- The text without the blanks it begins with. -/
def trimStart (s : List Char) : List Char := s.dropWhile isBlank

/-- The text without the blanks it ends with. -/
def trimEnd : List Char → List Char
  | [] => []
  | c :: s =>
    match trimEnd s with
    | [] => if isBlank c then [] else [c]
    | t => c :: t

/-- The text without the blanks at both ends. -/
def trim (s : List Char) : List Char := trimEnd (trimStart s)

/-- `trim` on strings. -/
def trimmed (s : String) : String := String.ofList (trim s.toList)

theorem trimEnd_eq_nil_iff {s : List Char} : trimEnd s = [] ↔ ∀ c ∈ s, isBlank c = true := by
  induction s with
  | nil => simp [trimEnd]
  | cons c s ih =>
    unfold trimEnd
    cases h : trimEnd s with
    | nil =>
      have hs := ih.1 h
      by_cases hc : isBlank c = true
      · simp [hc]; exact hs
      · simp [hc]
    | cons d t =>
      simp only [List.cons_ne_nil, false_iff]
      intro hall
      have : trimEnd s = [] := ih.2 fun x hx => hall x (List.mem_cons_of_mem _ hx)
      simp [h] at this

theorem trim_eq_nil_iff {s : List Char} : trim s = [] ↔ ∀ c ∈ s, isBlank c = true := by
  unfold trim trimStart
  induction s with
  | nil => simp [trimEnd]
  | cons c s ih =>
    by_cases hc : isBlank c = true
    · simp [List.dropWhile, hc, ih]
    · have hc' : isBlank c = false := by simpa using hc
      rw [List.dropWhile_cons_of_neg (by simp [hc']), trimEnd_eq_nil_iff]

/-! ## Words -/

/-- The maximal runs without blanks, in order.  `word` is what has been read of the current
one, in reverse. -/
def wordsFrom (word : List Char) : List Char → List (List Char)
  | [] => if word.isEmpty then [] else [word.reverse]
  | c :: s =>
    if isBlank c then
      if word.isEmpty then wordsFrom [] s else word.reverse :: wordsFrom [] s
    else wordsFrom (c :: word) s

/-- The maximal runs without blanks, in order. -/
def words (s : List Char) : List (List Char) := wordsFrom [] s

theorem not_isBlank_of_mem_wordsFrom {s word : List Char}
    (hword : ∀ c ∈ word, isBlank c = false) :
    ∀ w ∈ wordsFrom word s, ∀ c ∈ w, isBlank c = false := by
  induction s generalizing word with
  | nil =>
    intro w hw
    cases word with
    | nil => simp [wordsFrom] at hw
    | cons d t =>
      simp only [wordsFrom, List.isEmpty_cons, Bool.false_eq_true, if_false,
        List.mem_singleton] at hw
      subst hw
      intro c hc
      exact hword c (List.mem_reverse.1 hc)
  | cons c s ih =>
    intro w hw
    unfold wordsFrom at hw
    split at hw
    · cases word with
      | nil => exact @ih [] (by simp) w (by simpa using hw)
      | cons d t =>
        simp only [List.isEmpty_cons, Bool.false_eq_true, if_false, List.mem_cons] at hw
        rcases hw with rfl | hw
        · intro x hx
          exact hword x (List.mem_reverse.1 hx)
        · exact @ih [] (by simp) w hw
    · next hc =>
      refine ih ?_ w hw
      intro x hx
      rcases List.mem_cons.1 hx with rfl | hx
      · simpa using hc
      · exact hword x hx

theorem not_isBlank_of_mem_words {s w : List Char} (h : w ∈ words s) :
    ∀ c ∈ w, isBlank c = false :=
  not_isBlank_of_mem_wordsFrom (by simp) w h

end SvgBuilder.Text
