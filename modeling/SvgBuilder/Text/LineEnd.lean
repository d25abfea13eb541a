/-!
# Line ends

A line ends with a line feed, with a carriage return, or with a carriage return and a line feed.
`normalized` makes one line feed of each, and `withoutLineEnd` drops one at the end.

## Main results

* `not_mem_normalized`: no carriage return is left.
-/

namespace SvgBuilder.Text

/-- Every line end as one line feed: a carriage return with the line feed behind it, and a
carriage return alone. -/
def normalized : List Char → List Char
  | [] => []
  | c :: s =>
    if c = '\r' then if s.head? = some '\n' then normalized s else '\n' :: normalized s
    else c :: normalized s

/-- The text without a line feed at its end. -/
def withoutLineEnd (s : List Char) : List Char :=
  if s.getLast? = some '\n' then s.dropLast else s

theorem not_mem_normalized (s : List Char) : '\r' ∉ normalized s := by
  induction s with
  | nil => simp [normalized]
  | cons c s ih =>
    unfold normalized
    split
    · split <;> simp [ih]
    · next h => simp [ih, Ne.symm h]

end SvgBuilder.Text
