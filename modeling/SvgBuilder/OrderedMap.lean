/-!
# Maps in order of insertion

A map is a list of keys with their values.  `put` gives a key a value: a key that is there keeps
its place, a new one goes to the end.  `putNew` leaves a key that is there as it is.

## Main results

* `lookup_put`: looking up a key after `put`.
* `put_put`: the value that a key is given last counts.
* `keys_put`: the keys after `put`.
-/

namespace SvgBuilder.OrderedMap

variable {α β : Type} [BEq α]

/-- Gives a key a value. -/
def put (key : α) (value : β) : List (α × β) → List (α × β)
  | [] => [(key, value)]
  | (k, v) :: m => if key == k then (k, value) :: m else (k, v) :: put key value m

/-- Gives a key a value unless it has one. -/
def putNew (key : α) (value : β) (m : List (α × β)) : List (α × β) :=
  if (m.lookup key).isSome then m else m ++ [(key, value)]

/-- The map that results from giving the keys their values one by one. -/
def ofPairs (pairs : List (α × β)) : List (α × β) :=
  pairs.foldl (fun m (k, v) => put k v m) []

theorem lookup_put [LawfulBEq α] (key k : α) (value : β) (m : List (α × β)) :
    (put key value m).lookup k = if k == key then some value else m.lookup k := by
  induction m with
  | nil => simp [put, List.lookup_cons]; split <;> simp_all
  | cons entry m ih =>
    obtain ⟨k', v⟩ := entry
    unfold put
    by_cases h : key == k'
    · obtain rfl := eq_of_beq h
      by_cases hk : k == key <;> simp [List.lookup_cons, hk]
    · rw [if_neg h]
      by_cases hk : k == k'
      · obtain rfl := eq_of_beq hk
        have : (k == key) = false := by
          rw [beq_eq_false_iff_ne]
          rintro rfl
          simp at h
        simp [this]
      · simp only [List.lookup_cons, hk]
        exact ih

theorem put_put [LawfulBEq α] (key : α) (first last : β) (m : List (α × β)) :
    put key last (put key first m) = put key last m := by
  induction m with
  | nil => simp [put]
  | cons entry m ih =>
    obtain ⟨k, v⟩ := entry
    by_cases h : key == k
    · simp [put, h]
    · simp [put, h, ih]

theorem keys_put [LawfulBEq α] (key : α) (value : β) (m : List (α × β)) :
    (put key value m).map (·.1) =
      if key ∈ m.map (·.1) then m.map (·.1) else m.map (·.1) ++ [key] := by
  induction m with
  | nil => simp [put]
  | cons entry m ih =>
    obtain ⟨k, v⟩ := entry
    unfold put
    by_cases h : key == k
    · obtain rfl := eq_of_beq h
      simp
    · have hne : key ≠ k := by
        rintro rfl
        simp at h
      rw [if_neg h, List.map_cons, ih]
      by_cases hm : key ∈ m.map (·.1)
      · simp [hm]
      · rw [if_neg hm, if_neg]
        · simp
        · simp only [List.map_cons, List.mem_cons, not_or]
          exact ⟨hne, hm⟩

end SvgBuilder.OrderedMap
