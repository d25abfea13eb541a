import SvgBuilder.Yaml.Value

/-!
# Values without their numbers

A collection is known by its number, and numbers differ from text to text.  `writtenOut` puts what a
collection holds in the place of its number, and inside itself a mark in the place of a collection;
so values of two tables can be compared.  What a value is shown as, the text that it is used as, and
whether it is neither missing nor empty depend on the value written out alone.

## Main results

* `shown?_eq`: a value is shown as it is written out.
* `Alike.toText?`, `Alike.isSubstantial`: values that are alike have the same text, and both are
  empty or none is.
* `toText?_ne_empty`: what is neither missing nor empty has a text that is not empty.
-/

namespace SvgBuilder.Yaml.Value

open SvgBuilder.Number SvgBuilder.Text

/-! ## Writing values out -/

mutual

/-- A value with what `refer` gives in the places of numbers.  All that is no number is the same. -/
def writtenWith (refer : Nat → Value) : Value → Value
  | .nan _ => .nan none
  | .list items => .list (writtenItems refer items)
  | .pair key value => .pair (writtenWith refer key) (writtenWith refer value)
  | .set items => .set (writtenItems refer items)
  | .mapping entries => .mapping (writtenEntries refer entries)
  | .numbered n => refer n
  | v => v

/-- Values with what `refer` gives in the places of numbers. -/
def writtenItems (refer : Nat → Value) : List Value → List Value
  | [] => []
  | item :: items => writtenWith refer item :: writtenItems refer items

/-- Entries with what `refer` gives in the places of numbers. -/
def writtenEntries (refer : Nat → Value) : List (Value × Value) → List (Value × Value)
  | [] => []
  | entry :: entries => writtenEntry refer entry :: writtenEntries refer entries

/-- An entry with what `refer` gives in the places of numbers. -/
def writtenEntry (refer : Nat → Value) : Value × Value → Value × Value
  | (key, value) => (writtenWith refer key, writtenWith refer value)

end

/-- What stands for a collection inside itself, by what it is. -/
def mark : Value → Value
  | .list _ => .numbered 0
  | .pair _ _ => .numbered 1
  | .set _ => .numbered 2
  | _ => .numbered 3

/-- What stands for what is nested too deeply. -/
def deepMark : Value := .numbered 4

/-- A mark as it is shown in messages. -/
def markText? : Nat → Option String
  | 0 => some (ellipsis (.list []))
  | 1 => some (ellipsis (.pair .null .null))
  | 2 => some (ellipsis (.set []))
  | 3 => some (ellipsis (.mapping []))
  | _ => none

/-- The collection of a number written out; `around` holds the ones that it stands in.  The first
argument bounds how many there are. -/
def writtenNumbered (shared : Collections) : Nat → List Nat → Nat → Value
  | 0, _, _ => deepMark
  | more + 1, around, n =>
    let v := shared.getD n .null
    if n ∈ around then v.mark else v.writtenWith (writtenNumbered shared more (n :: around))

/-- A value without numbers. -/
def writtenOut (shared : Collections) (v : Value) : Value :=
  v.writtenWith (writtenNumbered shared (shared.size + 2) [])

theorem writtenItems_eq_map (refer : Nat → Value) (items : List Value) :
    writtenItems refer items = items.map (writtenWith refer) := by
  induction items with
  | nil => simp [writtenItems]
  | cons item items ih => simp [writtenItems, ih]

theorem writtenOut_numbered (shared : Collections) (n : Nat) :
    writtenOut shared (.numbered n) = (shared.getD n .null).writtenWith
      (writtenNumbered shared (shared.size + 1) [n]) := by
  rw [writtenOut, writtenWith, writtenNumbered, if_neg List.not_mem_nil]

/-! ## What values are shown as -/

mutual

/-- What is put in the places of numbers is shown there. -/
theorem shownWith_writtenWith (refer : Nat → Value) (text : Nat → Option String) : (v : Value) →
    (v.writtenWith refer).shownWith text = v.shownWith fun n => (refer n).shownWith text
  | .list items => by
    rw [writtenWith, shownWith, shownWith, shownItems_writtenItems refer text items]
  | .pair key value => by
    rw [writtenWith, shownWith, shownWith, shownWith_writtenWith refer text key,
      shownWith_writtenWith refer text value]
  | .set items => by
    have hEmpty : (writtenItems refer items).isEmpty = items.isEmpty := by
      rw [writtenItems_eq_map, List.isEmpty_map]
    rw [writtenWith, shownWith, shownWith, shownItems_writtenItems refer text items, hEmpty]
  | .mapping entries => by
    rw [writtenWith, shownWith, shownWith, shownEntries_writtenEntries refer text entries]
  | .null | .truth _ | .integer _ | .float _ | .nan _ | .text _ | .codes _ | .bytes _ | .date _
  | .moment _ _ | .numbered _ => by simp only [writtenWith, shownWith]

theorem shownItems_writtenItems (refer : Nat → Value) (text : Nat → Option String) :
    (items : List Value) → shownItems text (writtenItems refer items) =
      shownItems (fun n => (refer n).shownWith text) items
  | [] => by rw [writtenItems, shownItems, shownItems]
  | item :: items => by
    rw [writtenItems, shownItems, shownItems, shownWith_writtenWith refer text item,
      shownItems_writtenItems refer text items]

theorem shownEntries_writtenEntries (refer : Nat → Value) (text : Nat → Option String) :
    (entries : List (Value × Value)) → shownEntries text (writtenEntries refer entries) =
      shownEntries (fun n => (refer n).shownWith text) entries
  | [] => by rw [writtenEntries, shownEntries, shownEntries]
  | entry :: entries => by
    rw [writtenEntries, shownEntries, shownEntries, shownEntry_writtenEntry refer text entry,
      shownEntries_writtenEntries refer text entries]

theorem shownEntry_writtenEntry (refer : Nat → Value) (text : Nat → Option String) :
    (entry : Value × Value) → shownEntry text (writtenEntry refer entry) =
      shownEntry (fun n => (refer n).shownWith text) entry
  | (key, value) => by
    rw [writtenEntry, shownEntry, shownEntry, shownWith_writtenWith refer text key,
      shownWith_writtenWith refer text value]

end

theorem shownWith_mark (v : Value) : v.mark.shownWith markText? = some v.ellipsis := by
  cases v <;> simp [mark, shownWith, markText?, ellipsis]

theorem shownNumbered_eq (shared : Collections) (more : Nat) (around : List Nat) (n : Nat) :
    shownNumbered shared more around n =
      (writtenNumbered shared more around n).shownWith markText? := by
  induction more generalizing around n with
  | zero => rw [shownNumbered, writtenNumbered, deepMark, shownWith]; rfl
  | succ more ih =>
    rw [shownNumbered, writtenNumbered]
    split
    · rw [shownWith_mark]
    · rw [shownWith_writtenWith]
      congr 1
      exact funext fun m => ih (n :: around) m

/-- A value is shown as it is written out. -/
theorem shown?_eq (shared : Collections) (v : Value) :
    v.shown? shared = (v.writtenOut shared).shownWith markText? := by
  rw [shown?, writtenOut, shownWith_writtenWith]
  congr 1
  exact funext fun n => shownNumbered_eq shared _ _ n

/-! ## Values that are alike -/

/-- Whether a value may have a number. -/
def mayBeShared : Value → Bool
  | .null | .list _ | .pair _ _ | .set _ | .mapping _ => true
  | _ => false

/-- Whether a table holds collections; there may be places that hold nothing. -/
def IsTable (shared : Collections) : Prop := ∀ n, (shared.getD n .null).mayBeShared = true

/-- Whether a value is known apart from its kind and what is inside it. -/
def isScalar : Value → Bool
  | .null | .nan _ | .list _ | .pair _ _ | .set _ | .mapping _ | .numbered _ => false
  | _ => true

/-- What the items of a list are without numbers, each by itself. -/
def itemsOut (shared : Collections) (v : Value) : List Value :=
  match v.opened shared with
  | .list items => items.map (writtenOut shared)
  | _ => []

/-- Values of two tables that are the same but for their numbers: they are written out alike, and
so are their items, which may hold the list that they stand in. -/
structure Alike (shared shared' : Collections) (v v' : Value) : Prop where
  whole : v.writtenOut shared = v'.writtenOut shared'
  items : v.itemsOut shared = v'.itemsOut shared'

section Alike

variable {shared shared' : Collections} {v v' : Value}

theorem Alike.refl (shared : Collections) (v : Value) : Alike shared shared v v := ⟨rfl, rfl⟩

theorem writtenOut_of_isScalar (h : v.isScalar = true) (shared : Collections) :
    v.writtenOut shared = v := by
  cases v <;> simp [isScalar, writtenOut, writtenWith] at h ⊢

theorem isScalar_writtenWith (refer : Nat → Value) (h : v.mayBeShared = true) :
    (v.writtenWith refer).isScalar = false := by
  cases v <;> simp [mayBeShared, writtenWith, isScalar] at h ⊢

theorem isScalar_writtenOut (hTable : IsTable shared) (v : Value) :
    (v.writtenOut shared).isScalar = v.isScalar := by
  cases v with
  | numbered n =>
    rw [writtenOut_numbered, isScalar_writtenWith _ (hTable n)]
    rfl
  | _ => simp [writtenOut, writtenWith, isScalar]

theorem isScalar_congr (hTable : IsTable shared) (hTable' : IsTable shared')
    (h : v.writtenOut shared = v'.writtenOut shared') : v.isScalar = v'.isScalar := by
  rw [← isScalar_writtenOut hTable, h, isScalar_writtenOut hTable']

/-- Only a scalar itself is written out as it. -/
theorem eq_of_isScalar (hTable' : IsTable shared') (hScalar : v.isScalar = true)
    (h : v.writtenOut shared = v'.writtenOut shared') : v' = v := by
  rw [writtenOut_of_isScalar hScalar] at h
  have hScalar' : v'.isScalar = true := by rw [← isScalar_writtenOut hTable', ← h, hScalar]
  rw [h, writtenOut_of_isScalar hScalar']

/-- What is asked of a value apart from its numbers is the same when it is written out. -/
theorem writtenOut_eq_opened {p : Value → Bool}
    (h : ∀ refer (v : Value), (∀ n, v ≠ .numbered n) → p (v.writtenWith refer) = p v)
    (hTable : IsTable shared) (v : Value) : p (v.writtenOut shared) = p (v.opened shared) := by
  cases v with
  | numbered n =>
    have hShared := hTable n
    rw [writtenOut_numbered, opened, h]
    intro m hm
    rw [hm] at hShared
    cases hShared
  | _ => exact h _ _ fun n hn => nomatch hn

theorem isSubstantial_writtenWith (refer : Nat → Value) (v : Value) (h : ∀ n, v ≠ .numbered n) :
    (v.writtenWith refer).isSubstantial = v.isSubstantial := by
  cases v with
  | list items => simp [writtenWith, isSubstantial, writtenItems_eq_map]
  | set items => simp [writtenWith, isSubstantial, writtenItems_eq_map]
  | mapping entries => cases entries <;> simp [writtenWith, isSubstantial, writtenEntries]
  | numbered n => exact absurd rfl (h n)
  | _ => simp [writtenWith, isSubstantial]

/-- Whether a value is a list. -/
def isList : Value → Bool
  | .list _ => true
  | _ => false

theorem exists_of_isList (h : v.isList = true) : ∃ items, v = .list items := by
  cases v with
  | list items => exact ⟨items, rfl⟩
  | _ => cases h

theorem isList_writtenWith (refer : Nat → Value) (v : Value) (h : ∀ n, v ≠ .numbered n) :
    (v.writtenWith refer).isList = v.isList := by
  cases v with
  | numbered n => exact absurd rfl (h n)
  | _ => simp [writtenWith, isList]

theorem Alike.isList (h : Alike shared shared' v v') (hTable : IsTable shared)
    (hTable' : IsTable shared') : (v.opened shared).isList = (v'.opened shared').isList := by
  rw [← writtenOut_eq_opened isList_writtenWith hTable, h.whole,
    writtenOut_eq_opened isList_writtenWith hTable']

theorem Alike.isSubstantial (h : Alike shared shared' v v') (hTable : IsTable shared)
    (hTable' : IsTable shared') :
    (v.opened shared).isSubstantial = (v'.opened shared').isSubstantial := by
  rw [← writtenOut_eq_opened isSubstantial_writtenWith hTable, h.whole,
    writtenOut_eq_opened isSubstantial_writtenWith hTable']

theorem shown?_congr (h : v.writtenOut shared = v'.writtenOut shared') :
    v.shown? shared = v'.shown? shared' := by
  rw [shown?_eq, h, shown?_eq]

theorem toText?_of_not_isScalar (h : v.isScalar = false) (shared : Collections) :
    v.toText? shared = (v.shown? shared).map CodeText.ofString := by
  cases v with
  | text | codes | date | moment => cases h
  | _ => rfl

theorem toText?_congr_of_isScalar (h : v.isScalar = true) (shared shared' : Collections) :
    v.toText? shared = v.toText? shared' := by
  have hShown : v.shown? shared = v.shown? shared' :=
    shown?_congr ((writtenOut_of_isScalar h shared).trans (writtenOut_of_isScalar h shared').symm)
  cases v with
  | text | codes | date | moment => rfl
  | _ => exact congrArg (Option.map CodeText.ofString) hShown

/-- Values that are written out alike have the same text. -/
theorem toText?_congr (hTable : IsTable shared) (hTable' : IsTable shared')
    (h : v.writtenOut shared = v'.writtenOut shared') : v.toText? shared = v'.toText? shared' := by
  have hKind := isScalar_congr hTable hTable' h
  cases hv : v.isScalar with
  | true =>
    obtain rfl := eq_of_isScalar hTable' hv h
    exact toText?_congr_of_isScalar hv shared shared'
  | false =>
    rw [toText?_of_not_isScalar hv, toText?_of_not_isScalar (hKind ▸ hv), shown?_congr h]

end Alike

/-! ## Texts that are not empty -/

theorem append_ne_empty {first : String} (h : first ≠ "") (rest : String) : first ++ rest ≠ "" := by
  simp [h]

theorem text_ne_empty (x : Double) : x.text ≠ "" := by
  cases x with
  | finite negative rank =>
    have hText := (shortest rank).text_ne_nil .general
    simp [Double.text, hText]
  | infinite negative => simp [Double.text]
  | nan => decide

theorem writtenInteger?_ne_empty (i : Int) : writtenInteger? i ≠ some "" := by
  have hText : integerText i ≠ "" := by
    cases i <;> simp [integerText, decimal_ne_nil]
  unfold writtenInteger?
  split
  · exact nofun
  · simpa using hText

theorem momentShown_ne_empty (d : Date) (t : Clock) : momentShown d t ≠ "" := by
  unfold momentShown
  exact append_ne_empty (append_ne_empty (append_ne_empty (by decide) _) _) _

theorem enclosed_ne_empty {opening : String} (h : opening ≠ "") (closing : String)
    (parts : Option (List String)) : enclosed opening closing parts ≠ some "" := by
  cases parts with
  | none => exact nofun
  | some parts => simp [enclosed, h]

/-- No value is shown as an empty text. -/
theorem shownWith_ne_empty {refer : Nat → Option String} (hRefer : ∀ n, refer n ≠ some "")
    (v : Value) : v.shownWith refer ≠ some "" := by
  cases v with
  | null => simp [shownWith]
  | truth b => cases b <;> simp [shownWith, truthText]
  | integer i => simpa [shownWith] using writtenInteger?_ne_empty i
  | float x =>
    rw [shownWith]
    exact fun h => text_ne_empty x (Option.some.inj h)
  | nan origin =>
    rw [shownWith]
    exact fun h => text_ne_empty .nan (Option.some.inj h)
  | text s => simp [shownWith, quoted]
  | codes cs => simp [shownWith, quotedCodes]
  | bytes bs => simp [shownWith, shownBytes]
  | date d =>
    rw [shownWith]
    exact fun h => append_ne_empty (append_ne_empty (by decide) _) _ (Option.some.inj h)
  | moment d t =>
    rw [shownWith]
    exact fun h => momentShown_ne_empty d t (Option.some.inj h)
  | list items =>
    rw [shownWith]
    exact enclosed_ne_empty (by decide) _ _
  | pair key value =>
    rw [shownWith]
    cases key.shownWith refer with
    | none => exact nofun
    | some first =>
      cases value.shownWith refer with
      | none => exact nofun
      | some second => simp
  | set items =>
    rw [shownWith]
    split
    · simp
    · exact enclosed_ne_empty (by decide) _ _
  | mapping entries =>
    rw [shownWith]
    exact enclosed_ne_empty (by decide) _ _
  | numbered n =>
    rw [shownWith]
    exact hRefer n

theorem ellipsis_ne_empty (v : Value) : v.ellipsis ≠ "" := by
  cases v <;> simp [ellipsis]

theorem shownNumbered_ne_empty (shared : Collections) (more : Nat) (around : List Nat) (n : Nat) :
    shownNumbered shared more around n ≠ some "" := by
  induction more generalizing around n with
  | zero => exact nofun
  | succ more ih =>
    rw [shownNumbered]
    split
    · simpa using ellipsis_ne_empty _
    · exact shownWith_ne_empty (ih (n :: around)) _

theorem shown?_ne_empty (shared : Collections) (v : Value) : v.shown? shared ≠ some "" :=
  shownWith_ne_empty (shownNumbered_ne_empty shared _ _) v

/-- What is neither missing nor empty has a text that is not empty. -/
theorem toText?_ne_empty {shared : Collections} {v : Value}
    (h : (v.opened shared).isSubstantial = true) : v.toText? shared ≠ some "" := by
  have hShown : (v.shown? shared).map CodeText.ofString ≠ some "" := by
    intro hEmpty
    obtain ⟨s, hs, hText⟩ := Option.map_eq_some_iff.1 hEmpty
    exact shown?_ne_empty shared v (hs.trans (congrArg some (CodeText.ofString_inj.1 hText)))
  cases v with
  | text s => simpa [toText?, opened, isSubstantial, CodeText.ofString_inj] using h
  | codes cs => simpa [toText?, opened, isSubstantial, CodeText.ofString] using h
  | date d => simp [toText?, Date.text, CodeText.ofString_inj]
  | moment d t => simp [toText?, Date.text, CodeText.ofString_inj]
  | _ => exact hShown

end SvgBuilder.Yaml.Value
