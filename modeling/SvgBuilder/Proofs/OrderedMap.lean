import Mathlib.Data.List.Basic
import Mathlib.Data.List.Induction
import SvgBuilder.OrderedMap

/-!
# The entries of maps

Leaving keys out of a map before or after it is built makes no difference: `put` at a key that is
left out changes nothing, and at any other key it does the same to what is left.

## Main results

* `ofPairs_filter`: leaving keys out commutes with building a map.
* `mem_of_mem_ofPairs`, `mem_keys_ofPairs`: the entries of a map are among those that it is built
  from, and none of their keys is missing.
* `ofPairs_map_eq`: where nothing is put twice at one key, the map is what it is built from.
* `mem_foldl_putNew_iff`: a key that keeps what it has keeps the first value that it is given.
* `pairwise_foldl_putNew`: then the entries stand in the order of these first values.
-/

namespace SvgBuilder.OrderedMap

variable {α β : Type} [BEq α] [LawfulBEq α]

theorem filter_put_of_pos {p : α → Bool} {key : α} (h : p key = true) (value : β)
    (m : List (α × β)) :
    (put key value m).filter (fun e => p e.1) = put key value (m.filter fun e => p e.1) := by
  induction m with
  | nil => simp [put, h]
  | cons entry m ih =>
      obtain ⟨k, v⟩ := entry
      by_cases hk : key = k
      · subst hk
        simp [put, h]
      · by_cases hp : p k = true
        · simp [put, hk, hp, ih]
        · simp [put, hk, hp, ih]

theorem filter_put_of_neg {p : α → Bool} {key : α} (h : p key = false) (value : β)
    (m : List (α × β)) :
    (put key value m).filter (fun e => p e.1) = m.filter fun e => p e.1 := by
  induction m with
  | nil => simp [put, h]
  | cons entry m ih =>
      obtain ⟨k, v⟩ := entry
      by_cases hk : key = k
      · subst hk
        simp [put, h]
      · simp [put, hk, List.filter_cons, ih]

theorem ofPairs_filter (p : α → Bool) (pairs : List (α × β)) :
    ofPairs (pairs.filter fun e => p e.1) = (ofPairs pairs).filter fun e => p e.1 := by
  suffices hFrom : ∀ m : List (α × β),
      (pairs.filter fun e => p e.1).foldl (fun m e => put e.1 e.2 m) (m.filter fun e => p e.1) =
        (pairs.foldl (fun m e => put e.1 e.2 m) m).filter fun e => p e.1 from hFrom []
  induction pairs with
  | nil => intro m; rfl
  | cons entry pairs ih =>
      intro m
      rw [List.foldl_cons, ← ih (put entry.1 entry.2 m)]
      by_cases hp : p entry.1 = true
      · rw [filter_put_of_pos hp]
        simp [hp]
      · rw [filter_put_of_neg (by simpa using hp)]
        simp [hp]

theorem eq_or_mem_of_mem_put {key : α} {value : β} {m : List (α × β)} {entry : α × β}
    (h : entry ∈ put key value m) : entry = (key, value) ∨ entry ∈ m := by
  induction m with
  | nil => exact .inl (by simpa [put] using h)
  | cons first m ih =>
      obtain ⟨k, v⟩ := first
      unfold put at h
      split at h
      · next hk =>
          obtain rfl := eq_of_beq hk
          rcases List.mem_cons.1 h with rfl | h
          · exact .inl rfl
          · exact .inr (List.mem_cons_of_mem _ h)
      · rcases List.mem_cons.1 h with rfl | h
        · exact .inr (by simp)
        · exact (ih h).imp id (List.mem_cons_of_mem _)

theorem mem_of_mem_ofPairs {pairs : List (α × β)} {entry : α × β} (h : entry ∈ ofPairs pairs) :
    entry ∈ pairs := by
  suffices hFrom : ∀ m : List (α × β), entry ∈ pairs.foldl (fun m e => put e.1 e.2 m) m →
      entry ∈ m ∨ entry ∈ pairs from (hFrom [] h).resolve_left (by simp)
  clear h
  induction pairs with
  | nil => exact fun m h => .inl h
  | cons first pairs ih =>
      intro m h
      rcases ih _ h with h | h
      · rcases eq_or_mem_of_mem_put h with rfl | h
        · exact .inr (by simp)
        · exact .inl h
      · exact .inr (List.mem_cons_of_mem _ h)

/-- Every key that is given a value has one. -/
theorem mem_keys_ofPairs {pairs : List (α × β)} {key : α} (h : key ∈ pairs.map (·.1)) :
    key ∈ (ofPairs pairs).map (·.1) := by
  suffices hFrom : ∀ m : List (α × β), key ∈ m.map (·.1) ∨ key ∈ pairs.map (·.1) →
      key ∈ (pairs.foldl (fun m e => put e.1 e.2 m) m).map (·.1) from hFrom [] (.inr h)
  clear h
  induction pairs with
  | nil => exact fun m hm => hm.resolve_right (by simp)
  | cons e pairs ih =>
    intro m hm
    refine ih (put e.1 e.2 m) ?_
    rw [keys_put]
    rcases hm with hm | hm
    · split
      · exact .inl hm
      · exact .inl (List.mem_append_left _ hm)
    · rw [List.map_cons] at hm
      rcases List.mem_cons.1 hm with rfl | hm
      · split
        · next hKey => exact .inl hKey
        · exact .inl (List.mem_append_right _ (List.mem_singleton_self _))
      · exact .inr hm

/-! ## Entries with different keys -/

theorem put_eq_append {key : α} {value : β} {m : List (α × β)} (h : ∀ e ∈ m, e.1 ≠ key) :
    put key value m = m ++ [(key, value)] := by
  induction m with
  | nil => rfl
  | cons entry m ih =>
    obtain ⟨k, v⟩ := entry
    have hKey : ¬(key == k) = true := by
      rw [beq_iff_eq]
      exact Ne.symm (h (k, v) List.mem_cons_self)
    rw [put, if_neg hKey, ih fun e he => h e (List.mem_cons_of_mem _ he), List.cons_append]

theorem put_eq_self {key : α} {value : β} {m : List (α × β)} (hMem : (key, value) ∈ m)
    (h : ∀ e ∈ m, e.1 = key → e.2 = value) : put key value m = m := by
  induction m with
  | nil => exact absurd hMem List.not_mem_nil
  | cons entry m ih =>
    obtain ⟨k, v⟩ := entry
    rw [put]
    by_cases hKey : key = k
    · subst hKey
      have hValue : v = value := h (key, v) List.mem_cons_self rfl
      rw [if_pos (by simp), hValue]
    · have hRest : (key, value) ∈ m := by
        rcases List.mem_cons.1 hMem with hEq | hRest
        · exact absurd (congrArg Prod.fst hEq) hKey
        · exact hRest
      rw [if_neg (by simpa using hKey), ih hRest fun e he => h e (List.mem_cons_of_mem _ he)]

theorem eraseDups_append_singleton {γ : Type} [BEq γ] [LawfulBEq γ] (as : List γ) (a : γ) :
    (as ++ [a]).eraseDups = if a ∈ as then as.eraseDups else as.eraseDups ++ [a] := by
  rw [List.eraseDups_append]
  by_cases hMem : a ∈ as
  · simp [hMem, List.removeAll]
  · have hNew : [a].removeAll as = [a] := by simp [List.removeAll, hMem]
    rw [if_neg hMem, hNew, List.eraseDups_cons, List.filter_nil, List.eraseDups_nil]

/-- Where the key determines the member that it is made of, every member has one entry, in the order
of their first occurrences. -/
theorem ofPairs_map_eq {γ : Type} [DecidableEq γ] {entry : γ → α × β} {as : List γ}
    (h : ∀ a ∈ as, ∀ b ∈ as, (entry a).1 = (entry b).1 → a = b) :
    ofPairs (as.map entry) = as.eraseDups.map entry := by
  induction as using List.reverseRecOn with
  | nil => rfl
  | append_singleton as a ih =>
    have hFront : ofPairs (as.map entry) = as.eraseDups.map entry :=
      ih fun b hb c hc => h b (List.mem_append_left _ hb) c (List.mem_append_left _ hc)
    have hLast : ofPairs ((as ++ [a]).map entry) =
        put (entry a).1 (entry a).2 (as.eraseDups.map entry) := by
      rw [← hFront, List.map_append]
      simp [ofPairs, List.foldl_append]
    have hSame : ∀ b ∈ as.eraseDups, (entry b).1 = (entry a).1 → b = a := fun b hb =>
      h b (List.mem_append_left _ (List.mem_eraseDups.1 hb)) a (by simp)
    rw [hLast, eraseDups_append_singleton]
    by_cases hMem : a ∈ as
    · rw [if_pos hMem]
      refine put_eq_self (List.mem_map_of_mem (List.mem_eraseDups.2 hMem)) ?_
      intro e he hKey
      obtain ⟨b, hb, rfl⟩ := List.mem_map.1 he
      rw [hSame b hb hKey]
    · rw [if_neg hMem, List.map_append]
      refine put_eq_append ?_
      intro e he hKey
      obtain ⟨b, hb, rfl⟩ := List.mem_map.1 he
      exact hMem (hSame b hb hKey ▸ List.mem_eraseDups.1 hb)

/-! ## Entries that stay -/

theorem putNew_eq [DecidableEq α] (key : α) (value : β) (m : List (α × β)) :
    putNew key value m = if key ∈ m.map (·.1) then m else m ++ [(key, value)] := by
  have hKey : (m.lookup key).isSome = true ↔ key ∈ m.map (·.1) := by
    simp [List.lookup_isSome_iff]
  rw [putNew]
  simp only [hKey]

theorem nodup_keys_foldl_putNew [DecidableEq α] (key : β → α) (values : List β)
    {m : List (α × β)} (h : (m.map (·.1)).Nodup) :
    ((values.foldl (fun m value => putNew (key value) value m) m).map (·.1)).Nodup := by
  induction values generalizing m with
  | nil => exact h
  | cons value values ih =>
    refine ih ?_
    dsimp only
    rw [putNew_eq]
    split
    · exact h
    · next hNew =>
      rw [List.map_append, List.map_singleton, List.nodup_append]
      refine ⟨h, by simp, ?_⟩
      rintro k hk k' hk' rfl
      have hSame : k = key value := List.mem_singleton.1 hk'
      exact hNew (hSame ▸ hk)

/-- Of the values that a key is given one by one, it keeps the first one. -/
theorem mem_foldl_putNew_iff [DecidableEq α] (key : β → α) (values : List β) (m : List (α × β))
    (k : α) (v : β) :
    (k, v) ∈ values.foldl (fun m value => putNew (key value) value m) m ↔
      (k, v) ∈ m ∨ k ∉ m.map (·.1) ∧ values.find? (key · = k) = some v := by
  induction values generalizing m with
  | nil => simp
  | cons value values ih =>
    rw [List.foldl_cons, ih, putNew_eq, List.find?_cons]
    by_cases hKey : key value = k
    · subst hKey
      by_cases hOld : key value ∈ m.map (·.1)
      · simp [hOld]
      · rw [if_neg hOld]
        simp [hOld, eq_comm]
    · have hOther : k ≠ key value := Ne.symm hKey
      by_cases hOld : key value ∈ m.map (·.1)
      · rw [if_pos hOld, decide_eq_false hKey]
      · rw [if_neg hOld, decide_eq_false hKey]
        simp [hOther]

/-- Every value that is given finds its key taken in the end. -/
theorem mem_keys_foldl_putNew [DecidableEq α] (key : β → α) {values : List β} {value : β}
    (h : value ∈ values) :
    key value ∈ (values.foldl (fun m value => putNew (key value) value m) []).map (·.1) := by
  have hSome : (values.find? (key · = key value)).isSome := by
    rw [List.find?_isSome]
    exact ⟨value, h, decide_eq_true rfl⟩
  obtain ⟨first, hFirst⟩ := Option.isSome_iff_exists.1 hSome
  have hEntry := (mem_foldl_putNew_iff key values [] (key value) first).2 (.inr ⟨by simp, hFirst⟩)
  exact List.mem_map_of_mem hEntry

/-- The entries stand in the order in which their values come first. -/
theorem pairwise_foldl_putNew [DecidableEq α] [DecidableEq β] (key : β → α) (values : List β) :
    (values.foldl (fun m value => putNew (key value) value m) []).Pairwise fun p q =>
      values.idxOf p.2 < values.idxOf q.2 := by
  induction values using List.reverseRecOn with
  | nil => simp
  | append_singleton values value ih =>
    have hMem : ∀ p ∈ values.foldl (fun m value => putNew (key value) value m) [], p.2 ∈ values := by
      intro p hp
      have hFirst := ((mem_foldl_putNew_iff key values [] p.1 p.2).1 hp).resolve_left (by simp)
      exact List.mem_of_find?_eq_some hFirst.2
    have hKept : (values.foldl (fun m value => putNew (key value) value m) []).Pairwise fun p q =>
        (values ++ [value]).idxOf p.2 < (values ++ [value]).idxOf q.2 := by
      refine ih.imp_of_mem fun {p q} hp hq hLess => ?_
      rwa [List.idxOf_append_of_mem (hMem p hp), List.idxOf_append_of_mem (hMem q hq)]
    rw [List.foldl_append, List.foldl_cons, List.foldl_nil, putNew_eq]
    split
    · exact hKept
    · next hNew =>
      -- a value whose key is new has not been given before
      have hValue : value ∉ values := fun hOld => hNew (mem_keys_foldl_putNew key hOld)
      refine List.pairwise_append.2 ⟨hKept, List.pairwise_singleton _ _, fun p hp q hq => ?_⟩
      obtain rfl := List.mem_singleton.1 hq
      have hPlace := List.idxOf_lt_length_of_mem (hMem p hp)
      rw [List.idxOf_append_of_mem (hMem p hp), List.idxOf_append_of_notMem hValue]
      omega

end SvgBuilder.OrderedMap
