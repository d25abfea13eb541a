import SvgBuilder.Proofs.Text.Search
import SvgBuilder.Text.LineEnd

/-!
# Texts with one kind of line end

Making one line feed of every line end changes nothing but line ends.  So a part of the new text
comes from a part of the old one, and a stop without line ends is met at the same places.

## Main results

* `exists_of_normalized_eq_append`: the parts of a normalized text.
* `upTo_normalized`: a stop in a normalized text.
-/

namespace SvgBuilder.Text

variable {c : Char} {s t a b stop : List Char}

/-- Whether a text has no line ends. -/
def NoLineEnd (s : List Char) : Prop := ∀ c ∈ s, c ≠ '\n' ∧ c ≠ '\r'

theorem all_iff_noLineEnd : (s.all fun c => c != '\n' && c != '\r') = true ↔ NoLineEnd s := by
  simp [NoLineEnd]

instance : Decidable (NoLineEnd s) := decidable_of_iff _ all_iff_noLineEnd

theorem normalized_cons (h : c ≠ '\r') (s : List Char) :
    normalized (c :: s) = c :: normalized s := by
  rw [normalized, if_neg h]

theorem normalized_return_cons (h : s.head? ≠ some '\n') :
    normalized ('\r' :: s) = '\n' :: normalized s := by
  rw [normalized, if_pos rfl, if_neg h]

theorem normalized_return_feed (s : List Char) :
    normalized ('\r' :: '\n' :: s) = normalized ('\n' :: s) := by
  rw [normalized, if_pos rfl, if_pos (by rfl)]

theorem normalized_append (h : NoLineEnd a) (s : List Char) :
    normalized (a ++ s) = a ++ normalized s := by
  induction a with
  | nil => rfl
  | cons c a ih =>
    rw [List.cons_append, normalized_cons (h c List.mem_cons_self).2,
      ih fun d hd => h d (List.mem_cons_of_mem _ hd), List.cons_append]

/-- A text is put together of normalized parts unless a line end goes from one to the next. -/
theorem normalized_append_of_head (h : s.head? ≠ some '\n') :
    normalized (a ++ s) = normalized a ++ normalized s := by
  induction a with
  | nil => rfl
  | cons c a ih =>
    by_cases hReturn : c = '\r'
    · have hHead : (a ++ s).head? = a.head? ∨ a = [] := by
        cases a with
        | nil => exact .inr rfl
        | cons d a => exact .inl rfl
      rw [hReturn, List.cons_append]
      rcases hHead with hHead | rfl
      · rw [normalized, normalized, if_pos rfl, if_pos rfl, hHead, ih]
        split <;> rfl
      · exact normalized_return_cons h
    · rw [List.cons_append, normalized_cons hReturn, normalized_cons hReturn, ih, List.cons_append]

theorem mem_of_mem_normalized (h : c ∈ normalized s) : c ∈ s ∨ c = '\n' := by
  induction s with
  | nil => exact .inl h
  | cons d s ih =>
    have hRest : c ∈ normalized s → c ∈ d :: s ∨ c = '\n' := fun hMem =>
      (ih hMem).imp (List.mem_cons_of_mem _) id
    rw [normalized] at h
    split at h
    · split at h
      · exact hRest h
      · rcases List.mem_cons.1 h with rfl | hMem
        · exact .inr rfl
        · exact hRest hMem
    · rcases List.mem_cons.1 h with rfl | hMem
      · exact .inl List.mem_cons_self
      · exact hRest hMem

/-- The parts of a normalized text come from parts of the text. -/
theorem exists_of_normalized_eq_append (h : normalized s = a ++ b) :
    ∃ a' b', s = a' ++ b' ∧ normalized a' = a ∧ normalized b' = b := by
  induction s generalizing a with
  | nil =>
    obtain ⟨rfl, rfl⟩ := List.append_eq_nil_iff.1 h.symm
    exact ⟨[], [], rfl, rfl, rfl⟩
  | cons c s ih =>
    cases a with
    | nil => exact ⟨[], c :: s, rfl, rfl, h⟩
    | cons d a =>
      by_cases hReturn : c = '\r'
      · subst hReturn
        by_cases hFeed : s.head? = some '\n'
        · obtain ⟨s, rfl⟩ : ∃ t, s = '\n' :: t := by
            cases s with
            | nil => exact nomatch hFeed
            | cons e s => exact ⟨s, by rw [Option.some.inj hFeed]⟩
          rw [normalized_return_feed] at h
          obtain ⟨a', b', hText, hLeft, hRight⟩ := ih h
          -- the first part is not empty, so that it begins with the line feed
          cases a' with
          | nil => exact nomatch hLeft
          | cons e a' =>
            obtain ⟨rfl, rfl⟩ := List.cons.inj hText
            exact ⟨'\r' :: '\n' :: a', b', rfl, by rw [normalized_return_feed, hLeft], hRight⟩
        · rw [normalized_return_cons hFeed] at h
          obtain ⟨rfl, hRest⟩ := List.cons.inj h
          obtain ⟨a', b', rfl, hLeft, hRight⟩ := ih hRest
          refine ⟨'\r' :: a', b', rfl, ?_, hRight⟩
          rw [normalized_return_cons, hLeft]
          intro hHead
          cases a' with
          | nil => exact nomatch hHead
          | cons e a' => exact hFeed hHead
      · rw [normalized_cons hReturn] at h
        obtain ⟨rfl, hRest⟩ := List.cons.inj h
        obtain ⟨a', b', rfl, hLeft, hRight⟩ := ih hRest
        exact ⟨c :: a', b', rfl, by rw [normalized_cons hReturn, hLeft], hRight⟩

theorem exists_normalized_return (s : List Char) : ∃ t, normalized ('\r' :: s) = '\n' :: t := by
  by_cases hFeed : s.head? = some '\n'
  · cases s with
    | nil => exact nomatch hFeed
    | cons c s =>
      obtain rfl := Option.some.inj hFeed
      exact ⟨normalized s, by rw [normalized_return_feed, normalized_cons (by decide)]⟩
  · exact ⟨normalized s, normalized_return_cons hFeed⟩

theorem mem_normalized_of_mem (h : c ∈ s) (hc : c ≠ '\r') : c ∈ normalized s := by
  induction s with
  | nil => exact nomatch h
  | cons d s ih =>
    have hRest : c ∈ s → c ∈ normalized (d :: s) := by
      intro hMem
      rw [normalized]
      split
      · split
        · exact ih hMem
        · exact List.mem_cons_of_mem _ (ih hMem)
      · exact List.mem_cons_of_mem _ (ih hMem)
    rcases List.mem_cons.1 h with rfl | hMem
    · rw [normalized_cons hc]
      exact List.mem_cons_self
    · exact hRest hMem

theorem eq_of_normalized_eq_nil (h : normalized s = []) : s = [] := by
  cases s with
  | nil => rfl
  | cons c s =>
    by_cases hc : c = '\r'
    · obtain ⟨t, ht⟩ := exists_normalized_return s
      rw [hc, ht] at h
      exact nomatch h
    · rw [normalized_cons hc] at h
      exact nomatch h

theorem eq_of_normalized_eq_cons (hc : c ≠ '\n') (h : normalized s = c :: t) :
    ∃ s', s = c :: s' ∧ normalized s' = t := by
  cases s with
  | nil => exact nomatch h
  | cons d s =>
    by_cases hd : d = '\r'
    · obtain ⟨t', ht⟩ := exists_normalized_return s
      rw [hd, ht] at h
      exact absurd (List.cons.inj h).1.symm hc
    · rw [normalized_cons hd] at h
      obtain ⟨rfl, rfl⟩ := List.cons.inj h
      exact ⟨s, rfl, rfl⟩

theorem eq_of_normalized_eq_singleton (hc : c ≠ '\n') (h : normalized s = [c]) : s = [c] := by
  obtain ⟨s', rfl, hRest⟩ := eq_of_normalized_eq_cons hc h
  rw [eq_of_normalized_eq_nil hRest]

/-- A word without line ends begins a text if it begins the normalized text. -/
theorem prefix_normalized_iff (hStop : NoLineEnd stop) :
    stop <+: normalized s ↔ stop <+: s := by
  induction stop generalizing s with
  | nil => simp
  | cons d stop ih =>
    obtain ⟨hFeed, hReturn⟩ := hStop d List.mem_cons_self
    have hRest : NoLineEnd stop := fun c hc => hStop c (List.mem_cons_of_mem _ hc)
    cases s with
    | nil => rfl
    | cons c s =>
      by_cases hc : c = '\r'
      · subst hc
        obtain ⟨t, ht⟩ := exists_normalized_return s
        rw [ht, List.cons_prefix_cons, List.cons_prefix_cons]
        exact iff_of_false (fun h => hFeed h.1) (fun h => hReturn h.1)
      · rw [normalized_cons hc, List.cons_prefix_cons, List.cons_prefix_cons, ih hRest]

/-- A stop without line ends begins with none. -/
theorem not_prefix_of_isLineEnd (hStop : NoLineEnd stop) (hSome : stop ≠ [])
    (hc : c = '\n' ∨ c = '\r') (s : List Char) : ¬stop <+: c :: s := by
  intro hPrefix
  cases stop with
  | nil => exact hSome rfl
  | cons d stop =>
    obtain ⟨rfl, -⟩ := List.cons_prefix_cons.1 hPrefix
    exact hc.elim (hStop d List.mem_cons_self).1 (hStop d List.mem_cons_self).2

/-- What is met of a stop in a text and in the normalized text. -/
def MeetsAlike (stop s : List Char) : Prop :=
  upTo stop (normalized s) = (upTo stop s).map fun r => (normalized r.1, normalized r.2)

/-- A stop is not met at a carriage return, whether a line feed follows or not. -/
theorem meetsAlike_return (hStop : NoLineEnd stop) (hSome : stop ≠ []) (ih : MeetsAlike stop s) :
    MeetsAlike stop ('\r' :: s) := by
  have hFree {e : Char} {t : List Char} (he : e = '\n' ∨ e = '\r') : ¬stop <+: e :: t :=
    not_prefix_of_isLineEnd hStop hSome he t
  rw [MeetsAlike, upTo_cons_of_not_starts (hFree (.inr rfl)), Option.map_map]
  by_cases hFeed : s.head? = some '\n'
  · cases s with
    | nil => exact nomatch hFeed
    | cons e s =>
      obtain rfl := Option.some.inj hFeed
      -- what is read up to the stop begins with the line feed
      rw [normalized_return_feed, ih, upTo_cons_of_not_starts (hFree (.inl rfl)),
        Option.map_map, Option.map_map]
      congr 1
  · rw [normalized_return_cons hFeed, upTo_cons_of_not_starts (hFree (.inl rfl)), ih]
    cases hFound : upTo stop s with
    | none => rfl
    | some r =>
      have hHead : r.1.head? ≠ some '\n' := by
        intro hHead
        apply hFeed
        rw [upTo_append hFound, List.append_assoc, List.head?_append, hHead]
        rfl
      simp [normalized_return_cons hHead]

/-- At any other character the stop is met in both texts, or the reader goes on in both. -/
theorem meetsAlike_cons (hStop : NoLineEnd stop) (hc : c ≠ '\r') (ih : MeetsAlike stop s) :
    MeetsAlike stop (c :: s) := by
  have hSame : stop <+: c :: normalized s ↔ stop <+: c :: s := by
    rw [← normalized_cons hc]
    exact prefix_normalized_iff hStop
  rw [MeetsAlike, normalized_cons hc]
  by_cases hPrefix : stop <+: c :: s
  · obtain ⟨t, ht⟩ := hPrefix
    have hText : c :: normalized s = stop ++ normalized t := by
      rw [← normalized_cons hc, ← ht, normalized_append hStop]
    rw [upTo_cons_of_starts ⟨t, ht⟩, upTo_cons_of_starts (hSame.2 ⟨t, ht⟩), hText, ← ht,
      List.drop_left, List.drop_left]
    rfl
  · rw [upTo_cons_of_not_starts hPrefix, upTo_cons_of_not_starts (mt hSame.1 hPrefix), ih,
      Option.map_map, Option.map_map]
    congr 1
    funext r
    simp [normalized_cons hc]

/-- A stop without line ends is met at the same places in a normalized text. -/
theorem upTo_normalized (hStop : NoLineEnd stop) (hSome : stop ≠ []) (s : List Char) :
    upTo stop (normalized s) = (upTo stop s).map fun r => (normalized r.1, normalized r.2) := by
  induction s with
  | nil =>
    cases stop with
    | nil => exact absurd rfl hSome
    | cons d stop => rfl
  | cons c s ih =>
    by_cases hc : c = '\r'
    · subst hc
      exact meetsAlike_return hStop hSome ih
    · exact meetsAlike_cons hStop hc ih

end SvgBuilder.Text
