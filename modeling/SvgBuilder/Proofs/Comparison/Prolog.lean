import SvgBuilder.Comparison.Outside
import SvgBuilder.Proofs.Markup.Extent
import SvgBuilder.Proofs.Markup.Names

/-!
# What is dropped before the root

Before names are looked for, the items of a prolog are dropped from the beginning of a text.  The
declaration of a document is such an item: it begins like a processing instruction and ends at the
first end of one.

## Main results

* `withoutProlog_mark`: a byte order mark is dropped.
* `withoutProlog_declares`: the declaration of a document is dropped.
-/

namespace SvgBuilder.Comparison

open SvgBuilder.Text SvgBuilder.Markup

variable {s t : List Char}

theorem withoutProlog_of_item (h : behindPrologItem? s = some t) :
    withoutProlog s = withoutProlog t := by
  rw [withoutProlog.eq_def s]
  split
  · next u hu =>
    obtain rfl := Option.some.inj (h.symm.trans hu)
    rfl
  · next hNone => cases h.symm.trans hNone

theorem withoutProlog_eq_self (h : behindPrologItem? s = none) : withoutProlog s = s := by
  rw [withoutProlog.eq_def]
  split
  · next u hu => cases h.symm.trans hu
  · rfl

/-- A byte order mark is dropped. -/
theorem withoutProlog_mark (s : List Char) : withoutProlog ('\uFEFF' :: s) = withoutProlog s :=
  withoutProlog_of_item rfl

/-- What begins like a processing instruction is an item up to the first end of one. -/
theorem behindPrologItem?_instruction (s : List Char) :
    behindPrologItem? ("<?".toList ++ s) = (upTo ['?', '>'] s).map (·.2) := rfl

/-- The declaration of a document is dropped. -/
theorem withoutProlog_declares (h : Declares s t) : withoutProlog s = withoutProlog t := by
  cases h with
  | without => rfl
  | @heading p h =>
    have hMark : '?' ∉ "xml".toList ++ p := by
      intro hMem
      rcases List.mem_append.1 hMem with hMem | hMem
      · exact absurd hMem (by decide)
      · exact absurd (List.all_eq_true.1 h _ hMem) (by decide)
    have hEnd := upTo_append_left hMark ['>'] ("?>".toList ++ t)
    rw [show upTo ['?', '>'] ("?>".toList ++ t) = some ([], t) from upTo_self '?' ['>'] t] at hEnd
    apply withoutProlog_of_item
    rw [show "<?xml".toList ++ p ++ "?>".toList ++ t =
      "<?".toList ++ ("xml".toList ++ p ++ ("?>".toList ++ t)) by simp,
      behindPrologItem?_instruction, hEnd]
    rfl

/-! ## Comments, instructions and blanks -/

/-- Whether only comments, processing instructions and blanks stand before a rest. -/
inductive Skips : List Char → List Char → Prop
  | done (s : List Char) : Skips s s
  | item {s t u : List Char} (h : behindMisc? s = some t) (rest : Skips t u) : Skips s u

theorem isMisc_of_item (h : behindMisc? s = some t) : isMisc s = isMisc t := by
  rw [isMisc.eq_def s]
  split
  · next u hu =>
    obtain rfl := Option.some.inj (h.symm.trans hu)
    rfl
  · next hNone => cases h.symm.trans hNone

theorem behindDoctype?_of_misc (h : behindMisc? s = some t) : behindDoctype? s = none := by
  cases hOpening : behind? "<!DOCTYPE" s with
  | none =>
    rw [behindDoctype?, hOpening]
    rfl
  | some u =>
    rw [behind?_eq_some_iff.1 hOpening] at h
    exact nomatch h

theorem behindPrologItem?_of_misc (h : behindMisc? s = some t) : behindPrologItem? s = some t := by
  unfold behindPrologItem?
  split
  · exact nomatch h
  · rw [behindDoctype?_of_misc h, h]
    rfl

namespace Skips

theorem trans {s t u : List Char} (h : Skips s t) (h' : Skips t u) : Skips s u := by
  induction h with
  | done => exact h'
  | item h _ ih => exact .item h (ih h')

theorem isMisc (h : Skips s t) : isMisc s = isMisc t := by
  induction h with
  | done => rfl
  | item h _ ih => rw [isMisc_of_item h, ih]

theorem withoutProlog (h : Skips s t) : withoutProlog s = withoutProlog t := by
  induction h with
  | done => rfl
  | item h _ ih => rw [withoutProlog_of_item (behindPrologItem?_of_misc h), ih]

end Skips

theorem isBlank_of_isSpace {c : Char} (h : isSpace c = true) : isBlank c = true := by
  simp only [isSpace, Bool.or_eq_true, decide_eq_true_eq] at h
  rcases h with ((rfl | rfl) | rfl) | rfl <;> decide

theorem skips_skipSpace (s : List Char) : Skips s (skipSpace s) := by
  induction s with
  | nil => exact .done _
  | cons c s ih =>
    by_cases hSpace : isSpace c = true
    · have hSkip : skipSpace (c :: s) = skipSpace s := List.dropWhile_cons_of_pos hSpace
      rw [hSkip]
      refine .item ?_ ih
      rw [behindMisc?, if_pos (isBlank_of_isSpace hSpace)]
    · have hStay : skipSpace (c :: s) = c :: s := List.dropWhile_cons_of_neg hSpace
      rw [hStay]
      exact .done _

theorem behindMisc?_comment (s : List Char) :
    behindMisc? ("<!--".toList ++ s) = (upTo ['-', '-', '>'] s).map (·.2) := rfl

theorem behindMisc?_instruction (s : List Char) :
    behindMisc? ("<?".toList ++ s) = (upTo ['?', '>'] s).map (·.2) := rfl

theorem ensures_readName_append (fault : Fault) (s : List Char) :
    Ensures (readName fault s) fun r => s = r.1 ++ r.2 ∧ IsNameText r.1 := by
  intro r hr
  refine ⟨?_, ensures_readName fault s r hr⟩
  cases s with
  | nil => exact nomatch hr
  | cons c s =>
    unfold readName at hr
    dsimp only at hr
    split at hr
    · obtain rfl := Except.ok.inj hr
      rw [List.cons_append, List.takeWhile_append_dropWhile]
    · exact nomatch hr

theorem ensures_requireSpace (fault : Fault) (s : List Char) :
    Ensures (requireSpace fault s) fun t =>
      ∃ blanks, s = blanks ++ t ∧ ∀ c ∈ blanks, isSpace c = true := by
  cases s with
  | nil => exact Ensures.error _ _
  | cons c s =>
    rw [requireSpace]
    split
    · next hSpace =>
      refine Ensures.ok ⟨c :: s.takeWhile isSpace, ?_, ?_⟩
      · rw [skipSpace, List.cons_append, List.takeWhile_append_dropWhile]
      · intro d hd
        rcases List.mem_cons.1 hd with rfl | hd
        · exact hSpace
        · exact List.all_eq_true.1 List.all_takeWhile d hd
    · exact Ensures.error _ _

/-- A comment of a document is one for the comparison. -/
theorem behindMisc?_of_readComment {r : List Char × List Char} (h : readComment s = .ok r) :
    behindMisc? ("<!--".toList ++ s) = some r.2 := by
  unfold readComment at h
  split at h
  · next hStop =>
    obtain rfl := Except.ok.inj h
    rw [behindMisc?_comment, show ['-', '-', '>'] = ['-', '-'] ++ ['>'] from rfl, upTo_longer hStop]
    rfl
  · exact nomatch h

/-- A processing instruction of a document is one for the comparison. -/
theorem behindMisc?_of_readInstruction (s : List Char) :
    Ensures (readInstruction s) fun r => behindMisc? ("<?".toList ++ s) = some r.2 := by
  refine (ensures_readName_append _ s).bind fun name hName => ?_
  obtain ⟨hText, hChars⟩ := hName
  have hMark : '?' ∉ name.1 := fun hMem => absurd (hChars _ hMem) (by decide)
  rw [behindMisc?_instruction, hText, upTo_append_left hMark]
  dsimp only
  split
  · exact Ensures.error _ _
  · split
    · next rest hEnd =>
      refine Ensures.pure ?_
      rw [behind?_eq_some_iff.1 hEnd, show "?>".toList ++ rest = '?' :: ['>'] ++ rest from rfl,
        upTo_self]
      rfl
    · refine (ensures_requireSpace _ name.2).bind fun u hu => ?_
      obtain ⟨blanks, hBlanks, hSpaces⟩ := hu
      have hMark' : '?' ∉ blanks := fun hMem => absurd (hSpaces _ hMem) (by decide)
      split
      · next data rest hStop =>
        refine Ensures.pure ?_
        rw [hBlanks, upTo_append_left hMark', hStop]
        rfl
      · exact Ensures.error _ _

theorem yields_skipInstruction (s : List Char) :
    Yields (skipInstruction s) fun t => behindMisc? ("<?".toList ++ s) = some t :=
  (Yields.lift (behindMisc?_of_readInstruction s)).bind fun _ hr =>
    Yields.after _ fun _ => Yields.pure hr

theorem skips_skipMisc (steps : Nat) (s : List Char) :
    Yields (skipMisc steps s) fun t => Skips s t := by
  induction steps generalizing s with
  | zero => exact Yields.throw _ _
  | succ steps ih =>
    unfold skipMisc
    dsimp only
    split
    · next hOpening =>
      refine Yields.bind (P := fun r => readComment _ = .ok r) (Yields.lift fun _ h => h) ?_
      refine fun r hr => (ih _).imp fun t ht => (skips_skipSpace s).trans ?_
      rw [behind?_eq_some_iff.1 hOpening]
      exact .item (behindMisc?_of_readComment hr) ht
    · split
      · next hOpening =>
        refine (yields_skipInstruction _).bind fun rest hRest => (ih _).imp fun t ht => ?_
        refine (skips_skipSpace s).trans ?_
        rw [behind?_eq_some_iff.1 hOpening]
        exact .item hRest ht
      · exact Yields.pure (skips_skipSpace s)

/-! ## Document type declarations -/

/-- Whether the end of the declarations inside a document type declaration is seen in a text: a
closing bracket that blanks and the end of the declaration follow. -/
def EndsSubset (s : List Char) : Prop :=
  ∃ x blanks y, s = x ++ ']' :: (blanks ++ '>' :: y) ∧ ∀ c ∈ blanks, isBlank c = true

/-- Whether the end of a document type declaration is the first one that is seen in it: before its
declarations, if it has some, there is neither a closing nor an opening bracket, and in them there
is nothing that looks like their end. -/
inductive IsPlainDoctype : List Char → Prop
  | bare {a : List Char} (hEnd : '>' ∉ a) (hOpening : '[' ∉ a) :
    IsPlainDoctype ("<!DOCTYPE".toList ++ (a ++ ['>']))
  | subset {a b blanks : List Char} (hEnd : '>' ∉ a) (hOpening : '[' ∉ a) (hSubset : ¬EndsSubset b)
    (hBlanks : ∀ c ∈ blanks, isBlank c = true) :
    IsPlainDoctype ("<!DOCTYPE".toList ++ (a ++ '[' :: (b ++ ']' :: (blanks ++ ['>']))))

theorem behindSubset?_append {b blanks : List Char} (hSubset : ¬EndsSubset b)
    (hBlanks : ∀ c ∈ blanks, isBlank c = true) (rest : List Char) :
    behindSubset? (b ++ ']' :: (blanks ++ '>' :: rest)) = some rest := by
  induction b with
  | nil =>
    rw [List.nil_append, behindSubset?, if_pos rfl, List.dropWhile_append_of_pos hBlanks]
    rfl
  | cons c b ih =>
    have hRest : ¬EndsSubset b := by
      rintro ⟨x, w, y, rfl, hw⟩
      exact hSubset ⟨c :: x, w, y, rfl, hw⟩
    rw [List.cons_append, behindSubset?]
    split
    · next hc =>
      split
      · next rest' hDrop =>
        -- the bracket that follows is the one at the end, or one inside
        rw [List.dropWhile_append] at hDrop
        split at hDrop
        · cases hDrop
        · next hSome =>
          cases hInside : b.dropWhile isBlank with
          | nil => exact absurd (by rw [hInside]; rfl) hSome
          | cons d b' =>
            rw [hInside] at hDrop
            obtain rfl : d = '>' := (List.cons.inj hDrop).1
            refine absurd ⟨[], b.takeWhile isBlank, b', ?_, ?_⟩ hSubset
            · rw [hc, ← hInside, List.takeWhile_append_dropWhile]
              rfl
            · exact List.all_eq_true.1 List.all_takeWhile
      · exact ih hRest
    · exact ih hRest

/-- A document type declaration is dropped where its end is seen. -/
theorem behindDoctype?_append {doctype : List Char} (h : IsPlainDoctype doctype)
    (rest : List Char) : behindDoctype? (doctype ++ rest) = some rest := by
  have hPass : ∀ {a : List Char}, '>' ∉ a → '[' ∉ a →
      ∀ c ∈ a, (c ≠ '>' && c ≠ '[') = true := by
    intro a hEnd hOpening c hc
    have hc₁ : c ≠ '>' := fun h => hEnd (h ▸ hc)
    have hc₂ : c ≠ '[' := fun h => hOpening (h ▸ hc)
    simp [hc₁, hc₂]
  cases h with
  | @bare a hEnd hOpening =>
    have hBehind : behind? "<!DOCTYPE" ("<!DOCTYPE".toList ++ (a ++ ['>']) ++ rest) =
        some (a ++ '>' :: rest) := behind?_eq_some_iff.2 (by simp)
    rw [behindDoctype?, hBehind, Option.map_some,
      List.dropWhile_append_of_pos (hPass hEnd hOpening)]
    rfl
  | @subset a b blanks hEnd hOpening hSubset hBlanks =>
    have hBehind : behind? "<!DOCTYPE"
        ("<!DOCTYPE".toList ++ (a ++ '[' :: (b ++ ']' :: (blanks ++ ['>']))) ++ rest) =
          some (a ++ '[' :: (b ++ ']' :: (blanks ++ '>' :: rest))) :=
      behind?_eq_some_iff.2 (by simp)
    rw [behindDoctype?, hBehind, Option.map_some,
      List.dropWhile_append_of_pos (hPass hEnd hOpening)]
    exact behindSubset?_append hSubset hBlanks rest

/-- The prolog of a document is dropped, if the end of its document type declaration is seen. -/
theorem withoutProlog_of_hasProlog {doctype : List Char} (h : HasProlog s doctype t)
    (hDoctype : doctype = [] ∨ IsPlainDoctype doctype) : withoutProlog s = withoutProlog t := by
  cases h with
  | bare hHeading hMisc =>
    rw [withoutProlog_declares (ensures_readHeading? s _ hHeading)]
    exact (Gives.of_yields (skips_skipMisc _ _) hMisc).withoutProlog
  | @typed heading after u behind _ d hHeading hMisc hType hRest =>
    have hPlain : IsPlainDoctype ("<!DOCTYPE".toList ++ u) :=
      hDoctype.resolve_left fun h => nomatch h
    have hItem : behindPrologItem? ("<!DOCTYPE".toList ++ u ++ behind) = some behind := by
      show (behindDoctype? _).orElse _ = _
      rw [behindDoctype?_append hPlain]
      rfl
    rw [withoutProlog_declares (ensures_readHeading? s _ hHeading),
      (Gives.of_yields (skips_skipMisc _ _) hMisc).withoutProlog, withoutProlog_of_item hItem]
    exact (Gives.of_yields (skips_skipMisc _ _) hRest).withoutProlog

end SvgBuilder.Comparison
