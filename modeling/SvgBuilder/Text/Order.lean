/-!
# Texts in order

`sorted` puts texts into the order of their code points and drops those that occur before.

## Main results

* `mem_sorted`: the same texts are there.
-/

namespace SvgBuilder.Text

variable {α : Type} [DecidableEq α] [LT α] [DecidableLT α]

/-- Texts in order, each once. -/
def sorted (names : List α) : List α :=
  names.eraseDups.mergeSort fun a b => !decide (b < a)

theorem mem_sorted {names : List α} {name : α} : name ∈ sorted names ↔ name ∈ names := by
  simp [sorted, List.mem_mergeSort, List.mem_eraseDups]

end SvgBuilder.Text
