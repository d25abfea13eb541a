import SvgBuilder.Proofs.Yaml.Value
import Mathlib.Data.List.Basic

/-!
# Values with other numbers

The collections of a text have their numbers in the order in which they are read, so the same value
has other numbers behind another text.  Whether values are alike does not depend on that: a table
may be put into a larger one at any places, and each of its values is alike to the value with the
numbers of these places.

The bound in `writtenNumbered` is no limit.  The collections around a number differ, so what bounds
them is how many places of the table are not among them; every bound above that gives the same.

## Main results

* `writtenNumbered_of_isEmbedded`: what a number is written out as depends neither on the numbers
  nor on the bound.
* `alike_of_isRenumbered`: values that are the same but for their numbers are alike.
* `get?_of_isRenumbered`: keys stand before such values.
-/

namespace SvgBuilder.Yaml.Value

/-! ## Writing out twice -/

mutual

/-- What is put in the places of numbers is written out there. -/
theorem writtenWith_writtenWith (refer refer' : Nat → Value) : (v : Value) →
    (v.writtenWith refer).writtenWith refer' = v.writtenWith fun n => (refer n).writtenWith refer'
  | .list items => by
    rw [writtenWith, writtenWith, writtenWith, writtenItems_writtenItems refer refer' items]
  | .pair key value => by
    rw [writtenWith, writtenWith, writtenWith, writtenWith_writtenWith refer refer' key,
      writtenWith_writtenWith refer refer' value]
  | .set items => by
    rw [writtenWith, writtenWith, writtenWith, writtenItems_writtenItems refer refer' items]
  | .mapping entries => by
    rw [writtenWith, writtenWith, writtenWith, writtenEntries_writtenEntries refer refer' entries]
  | .null | .truth _ | .integer _ | .float _ | .nan _ | .text _ | .codes _ | .bytes _ | .date _
  | .moment _ _ | .numbered _ => by simp only [writtenWith]

theorem writtenItems_writtenItems (refer refer' : Nat → Value) : (items : List Value) →
    writtenItems refer' (writtenItems refer items) =
      writtenItems (fun n => (refer n).writtenWith refer') items
  | [] => by rw [writtenItems, writtenItems, writtenItems]
  | item :: items => by
    rw [writtenItems, writtenItems, writtenItems, writtenWith_writtenWith refer refer' item,
      writtenItems_writtenItems refer refer' items]

theorem writtenEntries_writtenEntries (refer refer' : Nat → Value) :
    (entries : List (Value × Value)) →
    writtenEntries refer' (writtenEntries refer entries) =
      writtenEntries (fun n => (refer n).writtenWith refer') entries
  | [] => by rw [writtenEntries, writtenEntries, writtenEntries]
  | entry :: entries => by
    rw [writtenEntries, writtenEntries, writtenEntries, writtenEntry_writtenEntry refer refer' entry,
      writtenEntries_writtenEntries refer refer' entries]

theorem writtenEntry_writtenEntry (refer refer' : Nat → Value) : (entry : Value × Value) →
    writtenEntry refer' (writtenEntry refer entry) =
      writtenEntry (fun n => (refer n).writtenWith refer') entry
  | (key, value) => by
    rw [writtenEntry, writtenEntry, writtenEntry, writtenWith_writtenWith refer refer' key,
      writtenWith_writtenWith refer refer' value]

end

/-! ## Other numbers -/

/-- A value with other numbers. -/
def renumbered (f : Nat → Nat) (v : Value) : Value := v.writtenWith fun n => .numbered (f n)

/-- Whether a value is another one with other numbers.  It does not count where a value comes from
that is no number. -/
def IsRenumbered (f : Nat → Nat) (v v' : Value) : Prop := v'.renumbered id = v.renumbered f

/-- Whether a table is put into another one: what stands at a place there stands with the new
numbers at the new place here. -/
structure IsEmbedded (f : Nat → Nat) (shared shared' : Collections) : Prop where
  injective : Function.Injective f
  collections : ∀ n, IsRenumbered f (shared.getD n .null) (shared'.getD (f n) .null)

section Renumbered

variable {f : Nat → Nat} {shared shared' : Collections} {v v' : Value}

theorem IsRenumbered.writtenWith (h : IsRenumbered f v v') (refer : Nat → Value) :
    v'.writtenWith refer = v.writtenWith fun n => refer (f n) := by
  have hTwice := congrArg (Value.writtenWith refer) h
  rw [renumbered, renumbered, writtenWith_writtenWith, writtenWith_writtenWith] at hTwice
  simpa only [Value.writtenWith, id_eq] using hTwice

theorem mark_renumbered (f : Nat → Nat) (v : Value) : (v.renumbered f).mark = v.mark := by
  cases v <;> simp only [renumbered, Value.writtenWith, mark]

theorem IsRenumbered.mark_eq (h : IsRenumbered f v v') : v'.mark = v.mark := by
  rw [← mark_renumbered id v', h, mark_renumbered]

theorem isList_renumbered (f : Nat → Nat) (v : Value) : (v.renumbered f).isList = v.isList := by
  cases v <;> simp only [renumbered, Value.writtenWith, isList]

theorem IsRenumbered.isList_eq (h : IsRenumbered f v v') : v'.isList = v.isList := by
  rw [← isList_renumbered id v', h, isList_renumbered]

theorem IsRenumbered.eq_null_iff (h : IsRenumbered f v v') : v' = .null ↔ v = .null := by
  have hNull (g : Nat → Nat) (w : Value) : w.renumbered g = .null ↔ w = .null := by
    cases w <;> simp [renumbered, Value.writtenWith]
  rw [← hNull id, h, hNull]

/-- Only a number is a number with other numbers, and it is the new one. -/
theorem IsRenumbered.numbered_iff (h : IsRenumbered f v v') (n : Nat) :
    v' = .numbered n ↔ ∃ m, v = .numbered m ∧ f m = n := by
  have hNumber (g : Nat → Nat) (w : Value) :
      w.renumbered g = .numbered n ↔ ∃ m, w = .numbered m ∧ g m = n := by
    cases w <;> simp [renumbered, Value.writtenWith]
  rw [← hNumber f, ← h, hNumber]
  simp

theorem IsRenumbered.exists_mapping_iff (h : IsRenumbered f v v') :
    (∃ entries, v' = .mapping entries) ↔ ∃ entries, v = .mapping entries := by
  have hMapping (g : Nat → Nat) (w : Value) :
      (∃ entries, w.renumbered g = .mapping entries) ↔ ∃ entries, w = .mapping entries := by
    cases w <;> simp [renumbered, Value.writtenWith]
  rw [← hMapping id, h, hMapping]

end Renumbered

/-! ## The bound -/

/-- How many places of a table are not among the given ones. -/
def unseen (shared : Collections) (around : List Nat) : Nat :=
  ((List.range shared.size).filter fun m => m ∉ around).length

theorem unseen_le (shared : Collections) (around : List Nat) : unseen shared around ≤ shared.size :=
  Nat.le_trans (List.length_filter_le _ _) (Nat.le_of_eq List.length_range)

theorem unseen_cons_lt {shared : Collections} {around : List Nat} {n : Nat} (hn : n < shared.size)
    (h : n ∉ around) : unseen shared (n :: around) < unseen shared around := by
  have hTwice : ((List.range shared.size).filter fun m => m ∉ n :: around) =
      ((List.range shared.size).filter fun m => m ∉ around).filter fun m => m ≠ n := by
    rw [List.filter_filter]
    congr 1
    funext m
    simp
  have hMem : n ∈ (List.range shared.size).filter fun m => m ∉ around := by
    simpa using ⟨hn, h⟩
  rw [unseen, hTwice]
  exact List.length_filter_lt_length_iff_exists.2 ⟨n, hMem, by simp⟩

theorem lt_size_of_ne_null {shared : Collections} {n : Nat} (h : shared.getD n .null ≠ .null) :
    n < shared.size := by
  rw [Array.getD_eq_getD_getElem?] at h
  by_contra hSize
  rw [Array.getElem?_eq_none (Nat.le_of_not_lt hSize)] at h
  exact h rfl

/-- What a number is written out as depends neither on the numbers nor on the bound, as long as the
bound lies above the number of places that are left. -/
theorem writtenNumbered_of_isEmbedded {f : Nat → Nat} {shared shared' : Collections}
    (hTable : IsEmbedded f shared shared') (more more' : Nat) (around : List Nat) (n : Nat)
    (hMore : unseen shared around + 1 < more) (hMore' : unseen shared' (around.map f) + 1 < more') :
    writtenNumbered shared' more' (around.map f) (f n) = writtenNumbered shared more around n := by
  -- Each round puts a place that holds something among the ones around, in both tables; so what is
  -- left gets less with the bounds.
  induction more generalizing more' around n with
  | zero => omega
  | succ more ih =>
    obtain _ | more' := more'
    · omega
    have hPlace := hTable.collections n
    have hAround : f n ∈ around.map f ↔ n ∈ around := List.mem_map_of_injective hTable.injective
    rw [writtenNumbered, writtenNumbered]
    simp only [hAround]
    split
    · exact hPlace.mark_eq
    · next hNew =>
      rw [hPlace.writtenWith]
      by_cases hNull : shared.getD n .null = .null
      · simp only [hNull, writtenWith]
      · have hLeft := unseen_cons_lt (lt_size_of_ne_null hNull) hNew
        have hNull' := hPlace.eq_null_iff.not.2 hNull
        have hLeft' := unseen_cons_lt (lt_size_of_ne_null hNull') (hAround.not.2 hNew)
        congr 1
        funext m
        exact ih more' (n :: around) m (by omega) (by rw [List.map_cons]; omega)

/-! ## Values that are alike -/

section Alike

variable {f : Nat → Nat} {shared shared' : Collections} {v v' : Value}

theorem IsRenumbered.writtenOut_eq (h : IsRenumbered f v v') (hTable : IsEmbedded f shared shared') :
    v.writtenOut shared = v'.writtenOut shared' := by
  have hLeft := unseen_le shared []
  have hLeft' := unseen_le shared' []
  rw [writtenOut, writtenOut, h.writtenWith]
  congr 1
  funext n
  exact (writtenNumbered_of_isEmbedded hTable _ _ [] n (by omega) (by rw [List.map_nil]; omega)).symm

theorem opened_of_ne (h : ∀ n, v ≠ .numbered n) (shared : Collections) : v.opened shared = v := by
  cases v with
  | numbered n => exact absurd rfl (h n)
  | _ => rfl

/-- What collections hold is the same but for its numbers. -/
theorem IsRenumbered.opened (h : IsRenumbered f v v') (hTable : IsEmbedded f shared shared') :
    IsRenumbered f (v.opened shared) (v'.opened shared') := by
  by_cases hNumber : ∃ n, v = .numbered n
  · obtain ⟨n, rfl⟩ := hNumber
    obtain rfl := (h.numbered_iff (f n)).2 ⟨n, rfl, rfl⟩
    exact hTable.collections n
  · have hv : ∀ n, v ≠ .numbered n := not_exists.1 hNumber
    have hv' (n : Nat) : v' ≠ .numbered n := by
      intro hEq
      obtain ⟨m, hm, -⟩ := (h.numbered_iff n).1 hEq
      exact hv m hm
    rw [opened_of_ne hv, opened_of_ne hv']
    exact h

theorem writtenOut_list (shared : Collections) (items : List Value) :
    (Value.list items).writtenOut shared = .list (items.map (writtenOut shared)) := by
  rw [writtenOut, writtenWith, writtenItems_eq_map]
  rfl

theorem itemsOut_of_not_isList (h : (v.opened shared).isList = false) : v.itemsOut shared = [] := by
  unfold itemsOut
  split
  · next items hOpened =>
    rw [hOpened] at h
    cases h
  · rfl

theorem IsRenumbered.itemsOut_eq (h : IsRenumbered f v v') (hTable : IsEmbedded f shared shared') :
    v.itemsOut shared = v'.itemsOut shared' := by
  have hOpened := h.opened hTable
  have hKind := hOpened.isList_eq
  cases hList : (v.opened shared).isList with
  | true =>
    obtain ⟨items, hItems⟩ := exists_of_isList hList
    obtain ⟨items', hItems'⟩ := exists_of_isList (hKind.trans hList)
    have hOut := hOpened.writtenOut_eq hTable
    rw [hItems, hItems', writtenOut_list, writtenOut_list] at hOut
    rw [itemsOut, itemsOut, hItems, hItems']
    exact Value.list.inj hOut
  | false => rw [itemsOut_of_not_isList hList, itemsOut_of_not_isList (hKind.trans hList)]

/-- Values that are the same but for their numbers are alike. -/
theorem alike_of_isRenumbered (hTable : IsEmbedded f shared shared') (h : IsRenumbered f v v') :
    Alike shared shared' v v' :=
  ⟨h.writtenOut_eq hTable, h.itemsOut_eq hTable⟩

end Alike

/-! ## Keys -/

theorem beq_text_renumbered (key : String) (f : Nat → Nat) (v : Value) :
    (Value.text key == v.renumbered f) = (Value.text key == v) := by
  cases v <;> simp only [renumbered, writtenWith] <;> rfl

/-- The key of a text stands before values that are the same but for their numbers. -/
theorem get?_of_isRenumbered {f : Nat → Nat} {entries entries' : List (Value × Value)}
    (h : IsRenumbered f (.mapping entries) (.mapping entries')) (key : String) :
    Option.Rel (IsRenumbered f) (get? entries key) (get? entries' key) := by
  have hEntries := Value.mapping.inj h
  clear h
  induction entries generalizing entries' with
  | nil =>
    cases entries' with
    | nil => exact .none
    | cons entry' rest' => cases hEntries
  | cons entry rest ih =>
    cases entries' with
    | nil => cases hEntries
    | cons entry' rest' =>
      obtain ⟨k, v⟩ := entry
      obtain ⟨k', v'⟩ := entry'
      obtain ⟨hEntry, hRest⟩ := List.cons.inj hEntries
      obtain ⟨hKey, hValue⟩ := Prod.mk.inj hEntry
      have hSame : (Value.text key == k') = (Value.text key == k) := by
        rw [← beq_text_renumbered key id k', ← beq_text_renumbered key f k]
        exact congrArg _ hKey
      rw [get?, get?, List.lookup_cons, List.lookup_cons, hSame]
      split
      · exact .some hValue
      · exact ih hRest

end SvgBuilder.Yaml.Value
