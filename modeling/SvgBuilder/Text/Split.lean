/-!
# Splitting and joining text

`splitAt sep s` cuts a text, which is a list of characters or of code points, at every separator;
the pieces may be empty and there is always at least one.  `joined sep` puts a separator between
strings.

## Main results

* `splitAt_ne_nil`: there is at least one piece.
* `intercalate_splitAt`: joining the pieces gives the text back.
* `not_mem_of_mem_splitAt`: no piece holds the separator.
-/

namespace SvgBuilder.Text

section Pieces

variable {α : Type} [DecidableEq α]

/-- The pieces between the separators, in order. -/
def splitAt (sep : α) : List α → List (List α)
  | [] => [[]]
  | c :: s =>
    if c = sep then [] :: splitAt sep s
    else
      match splitAt sep s with
      | [] => [[c]]
      | piece :: pieces => (c :: piece) :: pieces

theorem splitAt_ne_nil (sep : α) (s : List α) : splitAt sep s ≠ [] := by
  cases s with
  | nil => simp [splitAt]
  | cons c s =>
    unfold splitAt
    split
    · simp
    · split <;> simp

theorem intercalate_splitAt (sep : α) (s : List α) :
    List.intercalate [sep] (splitAt sep s) = s := by
  induction s with
  | nil => simp [splitAt, List.intercalate]
  | cons c s ih =>
    unfold splitAt
    have hne := splitAt_ne_nil sep s
    split
    · next hc =>
      subst hc
      cases h : splitAt c s with
      | nil => exact absurd h hne
      | cons piece pieces =>
        rw [h] at ih
        simp_all [List.intercalate, List.intersperse]
    · cases h : splitAt sep s with
      | nil => exact absurd h hne
      | cons piece pieces =>
        rw [h] at ih
        cases pieces <;> simp_all [List.intercalate, List.intersperse]

theorem not_mem_of_mem_splitAt {sep : α} {s : List α} :
    ∀ piece ∈ splitAt sep s, sep ∉ piece := by
  induction s with
  | nil => simp [splitAt]
  | cons c s ih =>
    unfold splitAt
    split
    · intro piece hp
      rcases List.mem_cons.1 hp with rfl | hp
      · simp
      · exact ih piece hp
    · next hc =>
      cases h : splitAt sep s with
      | nil => exact absurd h (splitAt_ne_nil sep s)
      | cons head pieces =>
        rw [h] at ih
        intro piece hp
        rcases List.mem_cons.1 hp with rfl | hp
        · have := ih head (by simp)
          simp only [List.mem_cons, not_or]
          exact ⟨fun heq => hc heq.symm, this⟩
        · exact ih piece (by simp [hp])

end Pieces

/-- The strings with the separator between them. -/
def joined (sep : String) (parts : List String) : String := String.intercalate sep parts

end SvgBuilder.Text
