import SvgBuilder.Text.Blank
import SvgBuilder.Text.Line
import SvgBuilder.Text.Word

/-!
# Blanks, line ends and words

Whatever ends a line is blank, and nothing that is blank stands in a word.  The blanks are few
enough to go through them one by one.

## Main results

* `isBlank_of_isLineBreak`: what ends a line is blank.
* `not_isWord_of_isBlank`: a blank is no character of a word.
-/

namespace SvgBuilder.Text

theorem isBlank_of_isLineBreak {c : Char} (h : isLineBreak c = true) : isBlank c = true := by
  simp only [isLineBreak, isBlank, Bool.or_eq_true, Bool.and_eq_true, decide_eq_true_eq] at h ⊢
  omega

theorem not_isLineBreak_of_not_isBlank {c : Char} (h : isBlank c = false) :
    isLineBreak c = false := by
  refine Bool.eq_false_iff.2 fun hBreak => ?_
  rw [isBlank_of_isLineBreak hBreak] at h
  exact nomatch h

/-- The code points of blanks. -/
def blankCodes : List Nat :=
  List.range' 9 5 ++ List.range' 28 5 ++ [0x85, 0xA0, 0x1680] ++ List.range' 0x2000 11 ++
    [0x2028, 0x2029, 0x202F, 0x205F, 0x3000]

theorem mem_blankCodes {c : Char} (h : isBlank c = true) : c.toNat ∈ blankCodes := by
  simp only [isBlank, Bool.or_eq_true, Bool.and_eq_true, decide_eq_true_eq] at h
  simp only [blankCodes, List.mem_append, List.mem_range'_1, List.mem_cons, List.not_mem_nil,
    or_false]
  omega

/-- What stands in words is not blank. -/
theorem not_isWord_of_isBlank {c : Char} (h : isBlank c = true) : isWord c = false := by
  have hAll : ∀ code ∈ blankCodes, isWord (Char.ofNat code) = false := by decide +kernel
  rw [← Char.ofNat_toNat c]
  exact hAll _ (mem_blankCodes h)

end SvgBuilder.Text
