/-!
# Searching text

`behind?` takes an opening off a text, and `upTo` cuts a text at the first place where a stop
begins.

## Main results

* `behind?_eq_some_iff`: the opening and the rest make up the text.
* `upTo_append`: what `upTo` has read, the stop and the rest make up the text.
-/

namespace SvgBuilder.Text

/-- The text behind an opening that the text begins with. -/
def behind? (opening : String) (s : List Char) : Option (List Char) :=
  if opening.toList.isPrefixOf s then some (s.drop opening.length) else none

/-- The text before the first stop, and the text behind that stop. -/
def upTo (stop : List Char) : List Char → Option (List Char × List Char)
  | [] => if stop.isEmpty then some ([], []) else none
  | c :: s =>
    if stop.isPrefixOf (c :: s) then some ([], (c :: s).drop stop.length)
    else (upTo stop s).map fun (before, rest) => (c :: before, rest)

theorem behind?_eq_some_iff {opening : String} {s rest : List Char} :
    behind? opening s = some rest ↔ s = opening.toList ++ rest := by
  unfold behind?
  constructor
  · intro h
    split at h
    · next hp =>
      obtain ⟨t, rfl⟩ := List.isPrefixOf_iff_prefix.1 hp
      obtain rfl := Option.some.inj h
      rw [← String.length_toList, List.drop_left]
    · exact nomatch h
  · rintro rfl
    rw [if_pos (List.isPrefixOf_iff_prefix.2 ⟨rest, rfl⟩), ← String.length_toList,
      List.drop_left]

theorem upTo_append {stop s before rest : List Char} (h : upTo stop s = some (before, rest)) :
    s = before ++ stop ++ rest := by
  induction s generalizing before with
  | nil =>
    unfold upTo at h
    split at h <;> simp_all
  | cons c s ih =>
    unfold upTo at h
    split at h
    · next hp =>
      obtain ⟨t, ht⟩ := List.isPrefixOf_iff_prefix.1 hp
      simp only [Option.some.injEq, Prod.mk.injEq] at h
      obtain ⟨rfl, rfl⟩ := h
      rw [← ht]
      simp
    · obtain ⟨⟨b, r⟩, hs, he⟩ := Option.map_eq_some_iff.1 h
      simp only [Prod.mk.injEq] at he
      obtain ⟨rfl, rfl⟩ := he
      simp [ih hs]

end SvgBuilder.Text
