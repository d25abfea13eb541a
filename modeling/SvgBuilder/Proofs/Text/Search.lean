import SvgBuilder.Text.Search

/-!
# The first stop

`upTo` cuts a text at the first place where a stop begins.  What is put behind the text does not
matter then, and neither does what is put before it as long as no stop can begin there.  Where the
stop goes on in a longer one, the longer one is not met earlier.

## Main results

* `upTo_append_right`, `upTo_append_left`: a stop in a part of a text.
* `upTo_longer`: a stop that goes on.
* `exists_upTo`: a stop that stands in a text is found.
-/

namespace SvgBuilder.Text

variable {c : Char} {s t x rest stop more : List Char}

theorem upTo_cons_of_starts {d : Char} (h : stop <+: d :: s) :
    upTo stop (d :: s) = some ([], (d :: s).drop stop.length) := by
  rw [upTo, if_pos (List.isPrefixOf_iff_prefix.2 h)]

theorem upTo_cons_of_not_starts {d : Char} (h : ¬stop <+: d :: s) :
    upTo stop (d :: s) = (upTo stop s).map fun r => (d :: r.1, r.2) := by
  rw [upTo, if_neg (mt List.isPrefixOf_iff_prefix.1 h)]

/-- A stop at the beginning. -/
theorem upTo_self (c : Char) (stop t : List Char) :
    upTo (c :: stop) (c :: stop ++ t) = some ([], t) := by
  rw [List.cons_append, upTo_cons_of_starts ⟨t, rfl⟩, ← List.cons_append, List.drop_left]

/-- No stop begins in a text without its first character. -/
theorem upTo_append_left (h : c ∉ x) (stop s : List Char) :
    upTo (c :: stop) (x ++ s) = (upTo (c :: stop) s).map fun r => (x ++ r.1, r.2) := by
  induction x with
  | nil => simp
  | cons d x ih =>
    obtain ⟨hd, hx⟩ := not_or.1 (mt List.mem_cons.2 h)
    have hPrefix : ¬c :: stop <+: d :: (x ++ s) := fun h => hd (List.cons_prefix_cons.1 h).1
    rw [List.cons_append, upTo_cons_of_not_starts hPrefix, ih hx, Option.map_map]
    rfl

/-- What stands behind a text does not matter where the stop stands in the text. -/
theorem upTo_append_right (h : upTo stop s = some (x, rest)) (t : List Char) :
    upTo stop (s ++ t) = some (x, rest ++ t) := by
  induction s generalizing x with
  | nil =>
    cases stop with
    | nil =>
      obtain ⟨rfl, rfl⟩ := Prod.mk.inj (Option.some.inj h)
      cases t <;> rfl
    | cons c stop => exact nomatch h
  | cons d s ih =>
    by_cases hPrefix : stop <+: d :: s
    · rw [upTo_cons_of_starts hPrefix] at h
      obtain ⟨rfl, rfl⟩ := Prod.mk.inj (Option.some.inj h)
      obtain ⟨u, hu⟩ := hPrefix
      rw [List.cons_append, upTo_cons_of_starts ⟨u ++ t, by rw [← List.append_assoc, hu]; rfl⟩,
        ← List.cons_append, ← hu, List.append_assoc, List.drop_left, List.drop_left]
    · rw [upTo_cons_of_not_starts hPrefix] at h
      obtain ⟨⟨x', rest'⟩, hRest, hPair⟩ := Option.map_eq_some_iff.1 h
      obtain ⟨rfl, rfl⟩ := Prod.mk.inj hPair
      have hStill : ¬stop <+: d :: (s ++ t) := by
        intro hLong
        -- the stop stands in the text, so that it is not longer
        have hLength : stop.length ≤ (d :: s).length := by
          rw [upTo_append hRest]
          simp only [List.length_cons, List.length_append]
          omega
        exact hPrefix (List.prefix_of_prefix_length_le hLong ⟨t, rfl⟩ hLength)
      rw [List.cons_append, upTo_cons_of_not_starts hStill, ih hRest]
      rfl

/-- Where a stop goes on, the longer stop is met there and not earlier. -/
theorem upTo_longer (h : upTo stop s = some (x, more ++ rest)) :
    upTo (stop ++ more) s = some (x, rest) := by
  induction s generalizing x with
  | nil =>
    cases stop with
    | nil =>
      obtain ⟨rfl, hEnd⟩ := Prod.mk.inj (Option.some.inj h)
      obtain ⟨rfl, rfl⟩ := List.append_eq_nil_iff.1 hEnd.symm
      rfl
    | cons c stop => exact nomatch h
  | cons d s ih =>
    by_cases hPrefix : stop <+: d :: s
    · rw [upTo_cons_of_starts hPrefix] at h
      obtain ⟨rfl, hMore⟩ := Prod.mk.inj (Option.some.inj h)
      obtain ⟨u, hu⟩ := hPrefix
      rw [← hu, List.drop_left] at hMore
      subst hMore
      rw [← List.append_assoc] at hu
      rw [upTo_cons_of_starts ⟨rest, hu⟩, ← hu, List.drop_left]
    · rw [upTo_cons_of_not_starts hPrefix] at h
      obtain ⟨⟨x', rest'⟩, hRest, hPair⟩ := Option.map_eq_some_iff.1 h
      obtain ⟨rfl, rfl⟩ := Prod.mk.inj hPair
      have hStill : ¬stop ++ more <+: d :: s :=
        fun hLong => hPrefix ((List.prefix_append stop more).trans hLong)
      rw [upTo_cons_of_not_starts hStill, ih hRest]
      rfl

/-- A stop that stands in a text is found there, or earlier. -/
theorem exists_upTo (x stop rest : List Char) :
    ∃ y, y.length ≤ x.length ∧ ∃ rest', upTo stop (x ++ stop ++ rest) = some (y, rest') := by
  induction x with
  | nil =>
    refine ⟨[], Nat.le_refl 0, ?_⟩
    cases h : [] ++ stop ++ rest with
    | nil =>
      obtain ⟨rfl, -⟩ := List.append_eq_nil_iff.1 h
      exact ⟨[], rfl⟩
    | cons d s => exact ⟨_, upTo_cons_of_starts ⟨rest, h⟩⟩
  | cons d x ih =>
    by_cases hPrefix : stop <+: d :: (x ++ stop ++ rest)
    · exact ⟨[], Nat.zero_le _, _, upTo_cons_of_starts hPrefix⟩
    · obtain ⟨y, hLength, rest', hFound⟩ := ih
      refine ⟨d :: y, Nat.succ_le_succ hLength, rest', ?_⟩
      rw [List.cons_append, List.cons_append, upTo_cons_of_not_starts hPrefix, hFound]
      rfl

theorem isSome_upTo_iff : (upTo stop s).isSome = true ↔ stop <:+: s := by
  constructor
  · intro h
    obtain ⟨⟨x, rest⟩, hFound⟩ := Option.isSome_iff_exists.1 h
    exact ⟨x, rest, (upTo_append hFound).symm⟩
  · rintro ⟨x, rest, rfl⟩
    obtain ⟨y, -, rest', hFound⟩ := exists_upTo x stop rest
    rw [hFound]
    rfl

end SvgBuilder.Text
