import SvgBuilder.Markup.Document
import SvgBuilder.Proofs.Markup.Heading

/-!
# What readers leave

Every reader takes something off the beginning of a text and leaves the rest, which is an end of the
text.

## Main results

* `yields_readDoctype`: what is left behind a document type declaration.
* `ensures_readNodes`, `ensures_readRoot`: what is left behind nodes and behind the root.
-/

namespace SvgBuilder.Markup

open SvgBuilder.Text

variable {s t : List Char} {c : Char}

/-! ## Small parts -/

theorem suffix_skipSpace (s : List Char) : skipSpace s <:+ s := List.dropWhile_suffix _

theorem suffix_of_skipSpace (h : skipSpace s = t) : t <:+ s := h ▸ suffix_skipSpace s

theorem suffix_of_skipSpace_cons (h : skipSpace s = c :: t) : t <:+ s :=
  (List.suffix_cons c t).trans (suffix_of_skipSpace h)

theorem suffix_of_behind? {opening : String} (h : behind? opening s = some t) : t <:+ s :=
  ⟨opening.toList, (behind?_eq_some_iff.1 h).symm⟩

theorem suffix_of_upTo {stop before : List Char} (h : upTo stop s = some (before, t)) : t <:+ s :=
  ⟨before ++ stop, (upTo_append h).symm⟩

theorem leaves_requireSpace (fault : Fault) (s : List Char) :
    Ensures (requireSpace fault s) fun t => t <:+ s := by
  cases s with
  | nil => exact Ensures.error _ _
  | cons c s =>
    rw [requireSpace]
    split
    · exact Ensures.ok ((suffix_skipSpace s).trans (List.suffix_cons c s))
    · exact Ensures.error _ _

theorem leaves_requireChar (fault : Fault) (c : Char) (s : List Char) :
    Ensures (requireChar fault c s) fun t => t <:+ s :=
  (ensures_requireChar fault c s).imp fun t ht => ht ▸ List.suffix_cons c t

theorem leaves_readName (fault : Fault) (s : List Char) :
    Ensures (readName fault s) fun r => r.2 <:+ s := by
  cases s with
  | nil => exact Ensures.error _ _
  | cons c s =>
    unfold readName
    dsimp only
    split
    · exact Ensures.ok ((List.dropWhile_suffix _).trans (List.suffix_cons c s))
    · exact Ensures.error _ _

theorem leaves_readQuoted (fault : Fault) (s : List Char) :
    Ensures (readQuoted fault s) fun r => r.2 <:+ s := by
  refine (ensures_readQuoted fault s).imp fun r hr => ?_
  obtain ⟨quote, -, rfl⟩ := hr
  exact ⟨quote :: (r.1 ++ [quote]), by simp⟩

theorem leaves_readComment (s : List Char) : Ensures (readComment s) fun r => r.2 <:+ s := by
  unfold readComment
  split
  · next hStop => exact Ensures.ok ((List.suffix_cons _ _).trans (suffix_of_upTo hStop))
  · exact Ensures.error _ _

theorem leaves_readInstruction (s : List Char) :
    Ensures (readInstruction s) fun r => r.2 <:+ s := by
  refine (leaves_readName _ _).bind fun r hr => ?_
  dsimp only
  split
  · exact Ensures.error _ _
  · split
    · next hEnd => exact Ensures.pure ((suffix_of_behind? hEnd).trans hr)
    · refine (leaves_requireSpace _ _).bind fun t ht => ?_
      split
      · next hStop => exact Ensures.pure (((suffix_of_upTo hStop).trans ht).trans hr)
      · exact Ensures.error _ _

theorem leaves_skipInstruction (s : List Char) : Yields (skipInstruction s) fun t => t <:+ s := by
  refine (Yields.lift (leaves_readInstruction s)).bind fun r hr => ?_
  exact Yields.after _ fun _ => Yields.pure hr

theorem leaves_skipMisc (steps : Nat) (s : List Char) :
    Yields (skipMisc steps s) fun t => t <:+ s := by
  induction steps generalizing s with
  | zero => exact Yields.throw _ _
  | succ steps ih =>
    unfold skipMisc
    dsimp only
    split
    · next hOpening =>
      refine (Yields.lift (leaves_readComment _)).bind fun r hr => (ih _).imp fun t ht => ?_
      exact ((ht.trans hr).trans (suffix_of_behind? hOpening)).trans (suffix_skipSpace s)
    · split
      · next hOpening =>
        refine (leaves_skipInstruction _).bind fun r hr => (ih _).imp fun t ht => ?_
        exact ((ht.trans hr).trans (suffix_of_behind? hOpening)).trans (suffix_skipSpace s)
      · exact Yields.pure (suffix_skipSpace s)

theorem Declares.suffix (h : Declares s t) : t <:+ s := by
  cases h with
  | without => exact List.suffix_refl _
  | heading => exact List.suffix_append _ _

theorem leaves_readHeading? (s : List Char) : Ensures (readHeading? s) fun r => r.2 <:+ s :=
  (ensures_readHeading? s).imp fun _ hr => hr.suffix

/-! ## Declarations -/

theorem leaves_readExternalId? (s : List Char) :
    Ensures (readExternalId? s) fun found => ∀ r, found = some r → r.2 <:+ s := by
  unfold readExternalId?
  split
  · next hOpening =>
    refine (leaves_requireSpace _ _).bind fun t ht => (leaves_readQuoted _ _).bind fun r hr => ?_
    refine Ensures.pure fun found hFound => ?_
    obtain rfl := Option.some.inj hFound
    exact (hr.trans ht).trans (suffix_of_behind? hOpening)
  · split
    · next hOpening =>
      refine (leaves_requireSpace _ _).bind fun t ht => (leaves_readQuoted _ _).bind fun r hr => ?_
      dsimp only
      split
      · exact Ensures.error _ _
      · refine (leaves_requireSpace _ _).bind fun u hu => (leaves_readQuoted _ _).bind fun q hq => ?_
        refine Ensures.pure fun found hFound => ?_
        obtain rfl := Option.some.inj hFound
        exact (((hq.trans hu).trans hr).trans ht).trans (suffix_of_behind? hOpening)
    · exact Ensures.pure fun _ h => nomatch h

theorem leaves_readEntityValue (levels : Nat) (d : Declarations) (parameter : Bool)
    (s : List Char) : Yields (readEntityValue levels d parameter s) fun r => r.2 <:+ s := by
  unfold readEntityValue
  refine (Yields.lift (leaves_readExternalId? s)).bind fun found hFound => ?_
  split
  · next rest =>
    have hRest := hFound _ rfl
    refine Yields.optional fun _ => ?_
    split
    · next hOpening =>
      refine Yields.optional fun _ => ?_
      refine (Yields.lift (leaves_requireSpace _ _)).bind fun t ht => ?_
      refine (Yields.lift (leaves_readName _ _)).bind fun r hr => Yields.pure ?_
      exact (((hr.trans ht).trans (suffix_of_behind? hOpening)).trans (suffix_skipSpace _)).trans hRest
    · exact Yields.pure hRest
  · refine (Yields.lift (leaves_readQuoted _ _)).bind fun r hr => Yields.optional fun _ => ?_
    exact Yields.after _ fun _ => Yields.pure hr

theorem leaves_readEntity (levels : Nat) (d : Declarations) (s : List Char) :
    Yields (readEntity levels d s) fun r => r.2 <:+ s := by
  unfold readEntity
  refine (Yields.lift (leaves_requireSpace _ _)).bind fun s' hs' => ?_
  extract_lets behind
  have hBehind : ∀ r : Bool × List Char, r.2 <:+ s → Yields (behind r) fun r => r.2 <:+ s := by
    intro r hr
    refine (Yields.lift (leaves_readName _ _)).bind fun name hName => Yields.after _ fun _ => ?_
    refine (Yields.lift (leaves_requireSpace _ _)).bind fun t ht => ?_
    refine (leaves_readEntityValue _ _ _ _).bind fun value hValue => ?_
    dsimp only
    have hRest : value.2 <:+ s := (((hValue.trans ht).trans hName).trans hr)
    split
    · refine Yields.after _ fun _ => (Yields.lift (leaves_requireChar _ _ _)).bind fun u hu => ?_
      exact Yields.pure ((hu.trans (suffix_skipSpace _)).trans hRest)
    · refine Yields.after _ fun _ => (Yields.lift (leaves_requireChar _ _ _)).bind fun u hu => ?_
      exact Yields.pure ((hu.trans (suffix_skipSpace _)).trans hRest)
  split
  · refine (Yields.lift (leaves_requireSpace _ _)).bind fun t ht => ?_
    exact (Yields.pure rfl).bind fun r hr => hBehind r
      (hr ▸ (ht.trans (List.suffix_cons _ _)).trans hs')
  · exact (Yields.pure rfl).bind fun r hr => hBehind r (hr ▸ hs')

/-! ### Content models -/

theorem suffix_skipOccurrence (s : List Char) : skipOccurrence s <:+ s := by
  cases s with
  | nil => exact List.suffix_refl _
  | cons c s =>
    rw [skipOccurrence]
    split
    · exact List.suffix_cons c s
    · exact List.suffix_refl _

theorem leaves_readAlternatives (steps : Nat) (s : List Char) :
    Ensures (readAlternatives steps s) fun t => t <:+ s := by
  induction steps generalizing s with
  | zero => exact Ensures.error _ _
  | succ steps ih =>
    unfold readAlternatives
    split
    · next hSpace =>
      refine (leaves_readName _ _).bind fun r hr => (ih _).imp fun t ht => ?_
      exact ((ht.trans hr).trans (suffix_skipSpace _)).trans (suffix_of_skipSpace_cons hSpace)
    · next hSpace =>
      exact Ensures.ok ((List.suffix_cons _ _).trans (suffix_of_skipSpace_cons hSpace))
    · exact Ensures.error _ _

theorem leaves_readMixed (s : List Char) : Ensures (readMixed s) fun t => t <:+ s := by
  unfold readMixed
  split
  · next hSpace =>
    exact Ensures.ok ((List.suffix_cons _ _).trans (suffix_of_skipSpace_cons hSpace))
  · next hSpace => exact Ensures.ok (suffix_of_skipSpace_cons hSpace)
  · exact (leaves_readAlternatives _ _).imp fun t ht => ht.trans (suffix_skipSpace s)

theorem leaves_readGroups (steps : Nat) (separators : List (Option Char)) (part : Bool)
    (s : List Char) : Ensures (readGroups steps separators part s) fun t => t <:+ s := by
  induction steps generalizing separators part s with
  | zero => exact Ensures.error _ _
  | succ steps ih =>
    cases part with
    | true =>
      rw [readGroups.eq_2]
      split
      · next hSpace =>
        split
        · exact (ih _ _ _).imp fun t ht => ht.trans (suffix_of_skipSpace_cons hSpace)
        · exact Ensures.error _ _
      · refine (leaves_readName _ _).bind fun r hr => (ih _ _ _).imp fun t ht => ?_
        exact ((ht.trans (suffix_skipOccurrence _)).trans hr).trans (suffix_skipSpace s)
    | false =>
      cases separators with
      | nil => exact Ensures.error _ _
      | cons separator separators =>
        rw [readGroups.eq_3]
        split
        · next hSpace =>
          have hRest := suffix_of_skipSpace_cons hSpace
          split
          · exact Ensures.ok ((suffix_skipOccurrence _).trans hRest)
          · exact (ih _ _ _).imp fun t ht => (ht.trans (suffix_skipOccurrence _)).trans hRest
        · next hSpace =>
          split
          · exact (ih _ _ _).imp fun t ht => ht.trans (suffix_of_skipSpace_cons hSpace)
          · exact Ensures.error _ _
        · exact Ensures.error _ _

theorem leaves_readContentModel (s : List Char) :
    Ensures (readContentModel s) fun t => t <:+ s := by
  unfold readContentModel
  split
  · next hWord =>
    refine Ensures.ok ?_
    cases hEmpty : behind? "EMPTY" s with
    | some t =>
      rw [hEmpty] at hWord
      obtain rfl := Option.some.inj hWord
      exact suffix_of_behind? hEmpty
    | none =>
      rw [hEmpty] at hWord
      exact suffix_of_behind? hWord
  · split
    · split
      · next hMixed =>
        refine (leaves_readMixed _).imp fun t ht => ?_
        exact ((ht.trans (suffix_of_behind? hMixed)).trans (suffix_skipSpace _)).trans
          (List.suffix_cons _ _)
      · exact (leaves_readGroups _ _ _ _).imp fun t ht => ht.trans (List.suffix_cons _ _)
    · exact Ensures.error _ _

/-! ### Other declarations -/

theorem leaves_readElementType (d : Declarations) (s : List Char) :
    Yields (readElementType d s) fun r => r.2 <:+ s := by
  unfold readElementType
  refine (Yields.lift (leaves_requireSpace _ _)).bind fun t ht => ?_
  refine (Yields.lift (leaves_readName _ _)).bind fun name hName => ?_
  refine (Yields.lift (leaves_requireSpace _ _)).bind fun u hu => ?_
  refine (Yields.lift (leaves_readContentModel _)).bind fun v hv => ?_
  refine (Yields.lift (leaves_requireChar _ _ _)).bind fun rest hRest => ?_
  refine Yields.optional fun _ => Yields.pure ?_
  exact ((((hRest.trans (suffix_skipSpace _)).trans hv).trans hu).trans hName).trans ht

theorem leaves_readNotationId (s : List Char) :
    Ensures (readNotationId s) fun t => t <:+ s := by
  unfold readNotationId
  split
  · next hOpening =>
    refine (leaves_requireSpace _ _).bind fun t ht => (leaves_readQuoted _ _).bind fun r hr => ?_
    have hRest := (hr.trans ht).trans (suffix_of_behind? hOpening)
    dsimp only
    split
    · exact Ensures.error _ _
    · split
      · next hSpace =>
        refine Ensures.pure ?_
        rw [← hSpace]
        exact (suffix_skipSpace _).trans hRest
      · refine (leaves_requireSpace _ _).bind fun u hu => (leaves_readQuoted _ _).bind fun q hq => ?_
        exact Ensures.pure ((hq.trans hu).trans hRest)
  · refine (leaves_readExternalId? s).bind fun found hFound => ?_
    split
    · exact Ensures.pure (hFound _ rfl)
    · exact Ensures.error _ _

theorem leaves_readNotation (d : Declarations) (s : List Char) :
    Yields (readNotation d s) fun r => r.2 <:+ s := by
  unfold readNotation
  refine (Yields.lift (leaves_requireSpace _ _)).bind fun t ht => ?_
  refine (Yields.lift (leaves_readName _ _)).bind fun name hName => Yields.after _ fun _ => ?_
  refine (Yields.lift (leaves_requireSpace _ _)).bind fun u hu => ?_
  refine (Yields.lift (leaves_readNotationId _)).bind fun v hv => ?_
  refine (Yields.lift (leaves_requireChar _ _ _)).bind fun rest hRest => ?_
  refine Yields.optional fun _ => Yields.pure ?_
  exact ((((hRest.trans (suffix_skipSpace _)).trans hv).trans hu).trans hName).trans ht

theorem leaves_skipDeclaration (quote : Option Char) (s : List Char) :
    Ensures (skipDeclaration quote s) fun t => t <:+ s := by
  induction s generalizing quote with
  | nil => exact Ensures.error _ _
  | cons c s ih =>
    have hRest : ∀ quote, Ensures (skipDeclaration quote s) fun t => t <:+ c :: s :=
      fun quote => (ih quote).imp fun t ht => ht.trans (List.suffix_cons c s)
    unfold skipDeclaration
    split
    · exact hRest _
    · split
      · exact Ensures.ok (List.suffix_cons c s)
      · split
        · exact hRest _
        · split
          · exact Ensures.error _ _
          · exact hRest _

theorem leaves_skipAttributes (d : Declarations) (s : List Char) :
    Yields (skipAttributes d s) fun r => r.2 <:+ s := by
  refine (Yields.lift (leaves_requireSpace _ _)).bind fun t ht => ?_
  refine (Yields.lift (leaves_readName _ _)).bind fun name hName => ?_
  refine (Yields.lift (leaves_skipDeclaration _ _)).bind fun rest hRest => ?_
  exact Yields.pure ((hRest.trans hName).trans ht)

theorem leaves_of_mem_declarationReaders {levels : Nat} {opening : String}
    {read : DeclarationReader} (h : (opening, read) ∈ declarationReaders levels)
    (d : Declarations) (s : List Char) : Yields (read d s) fun r => r.2 <:+ s := by
  simp only [declarationReaders, List.mem_cons, Prod.mk.injEq, List.not_mem_nil, or_false] at h
  rcases h with ⟨-, rfl⟩ | ⟨-, rfl⟩ | ⟨-, rfl⟩ | ⟨-, rfl⟩
  · exact leaves_readEntity levels d s
  · exact leaves_readElementType d s
  · exact leaves_readNotation d s
  · exact leaves_skipAttributes d s

theorem leaves_readDeclaration (levels : Nat) (d : Declarations) (s : List Char) :
    Yields (readDeclaration levels d s) fun r => r.2 <:+ s := by
  unfold readDeclaration
  refine Yields.getD fun reading hFound => ?_
  obtain ⟨⟨opening, read⟩, hMem, hRead⟩ := List.exists_of_findSome?_eq_some hFound
  obtain ⟨t, hOpening, rfl⟩ := Option.map_eq_some_iff.1 hRead
  exact (leaves_of_mem_declarationReaders hMem d t).imp fun r hr =>
    hr.trans (suffix_of_behind? hOpening)

theorem leaves_readSubset (levels : Nat) (expand : Declarations → List Char → Reading Declarations)
    (bracketed : Bool) (steps : Nat) (d : Declarations) (s : List Char) :
    Yields (readSubset levels expand bracketed steps d s) fun r => r.2 <:+ s := by
  induction steps generalizing d s with
  | zero => exact Yields.throw _ _
  | succ steps ih =>
    unfold readSubset
    split
    · split
      · exact Yields.throw _ _
      · exact Yields.pure (List.nil_suffix)
    · next hSpace =>
      split
      · exact Yields.pure (suffix_of_skipSpace_cons hSpace)
      · exact Yields.throw _ _
    · next hSpace =>
      refine (Yields.lift (leaves_readName _ _)).bind fun name hName => ?_
      refine (Yields.lift (leaves_requireChar _ _ _)).bind fun rest hRest => ?_
      have hLeft : ∀ d, Yields (readSubset levels expand bracketed steps d rest) fun r =>
          r.2 <:+ s := by
        intro d
        refine (ih d rest).imp fun r hr => ?_
        exact ((hr.trans hRest).trans hName).trans (suffix_of_skipSpace_cons hSpace)
      dsimp only
      split
      · exact Yields.after _ hLeft
      · exact Yields.after _ hLeft
      · exact Yields.after _ fun _ => Yields.after _ hLeft
    · split
      · next hOpening =>
        refine (Yields.lift (leaves_readComment _)).bind fun r hr => (ih _ _).imp fun q hq => ?_
        exact ((hq.trans hr).trans (suffix_of_behind? hOpening)).trans (suffix_skipSpace s)
      · split
        · next hOpening =>
          refine (leaves_skipInstruction _).bind fun r hr => (ih _ _).imp fun q hq => ?_
          exact ((hq.trans hr).trans (suffix_of_behind? hOpening)).trans (suffix_skipSpace s)
        · refine (leaves_readDeclaration _ _ _).bind fun r hr => (ih _ _).imp fun q hq => ?_
          exact (hq.trans hr).trans (suffix_skipSpace s)

theorem leaves_readDoctype (d : Declarations) (s : List Char) :
    Yields (readDoctype d s) fun r => r.2 <:+ s := by
  unfold readDoctype
  refine (Yields.lift (leaves_requireSpace _ _)).bind fun t ht => ?_
  refine (Yields.lift (leaves_readName _ _)).bind fun name hName => ?_
  refine (Yields.lift (leaves_readExternalId? _)).bind fun external hExternal => ?_
  have hBehind : skipSpace ((external.map (·.2)).getD (skipSpace name.2)) <:+ s := by
    refine ((suffix_skipSpace _).trans ?_).trans ((suffix_skipSpace name.2).trans (hName.trans ht))
    cases external with
    | none => exact List.suffix_refl _
    | some found => exact hExternal _ rfl
  dsimp only
  split
  · next hBracket =>
    refine (leaves_readSubset _ _ _ _ _ _).bind fun r hr => ?_
    refine (Yields.lift (leaves_requireChar _ _ _)).bind fun rest hRest => Yields.pure ?_
    refine ((hRest.trans (suffix_skipSpace _)).trans hr).trans ?_
    exact (List.suffix_cons _ _).trans (hBracket ▸ hBehind)
  · refine (Yields.lift (leaves_requireChar _ _ _)).bind fun rest hRest => Yields.pure ?_
    exact hRest.trans hBehind

/-! ## Elements -/

/-- Attributes are followed by the end of the tag. -/
theorem leaves_readAttributes (steps : Nat) (s : List Char) :
    Ensures (readAttributes steps s) fun r => '>' :: r.2 <:+ s := by
  induction steps generalizing s with
  | zero => exact Ensures.error _ _
  | succ steps ih =>
    unfold readAttributes
    split
    · next hSpace => exact Ensures.ok (suffix_of_skipSpace hSpace)
    · next hSpace =>
      exact Ensures.ok ((List.suffix_cons _ _).trans (suffix_of_skipSpace hSpace))
    · split
      · exact Ensures.error _ _
      · refine (leaves_readName _ _).bind fun name hName => ?_
        refine (leaves_requireChar _ _ _).bind fun t ht => (leaves_readQuoted _ _).bind fun r hr => ?_
        refine (Ensures.trivial _).bind fun value _ => (ih _).bind fun more hMore => ?_
        have hRest := ((hr.trans (suffix_skipSpace _)).trans ht).trans (suffix_skipSpace _)
        exact Ensures.pure (((hMore.trans hRest).trans hName).trans (suffix_skipSpace s))

theorem leaves_readClosing (name s : List Char) :
    Ensures (readClosing name s) fun t => '>' :: t <:+ s := by
  unfold readClosing
  split
  · exact Ensures.error _ _
  · next hOpening =>
    refine (leaves_readName _ _).bind fun r hr => ?_
    dsimp only
    split
    · exact Ensures.error _ _
    · refine (ensures_requireChar _ _ _).imp fun t ht => ?_
      exact ((suffix_of_skipSpace ht).trans hr).trans (suffix_of_behind? hOpening)

theorem leaves_readNodes (steps depth : Nat) (s : List Char) :
    Ensures (readNodes steps depth s) fun r => r.2 <:+ s := by
  induction steps generalizing depth s with
  | zero => exact Ensures.error _ _
  | succ steps ih =>
    unfold readNodes
    split
    · exact Ensures.ok (List.suffix_refl _)
    · exact Ensures.ok (List.suffix_refl _)
    · refine (leaves_readInstruction _).bind fun r hr => (ih _ _).bind fun more hMore => ?_
      refine Ensures.pure ((hMore.trans hr).trans ?_)
      exact (List.suffix_cons _ _).trans (List.suffix_cons _ _)
    · split
      · next hOpening =>
        refine (leaves_readComment _).bind fun r hr => (ih _ _).bind fun more hMore => ?_
        refine Ensures.pure (((hMore.trans hr).trans (suffix_of_behind? hOpening)).trans ?_)
        exact (List.suffix_cons _ _).trans (List.suffix_cons _ _)
      · split
        · next content rest hSection =>
          obtain ⟨u, hOpening, hStop⟩ := Option.bind_eq_some_iff.1 hSection
          refine (ih _ _).bind fun more hMore => Ensures.pure ?_
          refine ((hMore.trans (suffix_of_upTo hStop)).trans (suffix_of_behind? hOpening)).trans ?_
          exact (List.suffix_cons _ _).trans (List.suffix_cons _ _)
        · exact Ensures.error _ _
    · next t _ _ _ =>
      refine (leaves_readName _ _).bind fun name hName => ?_
      refine (leaves_readAttributes _ _).bind fun tag hTag => ?_
      have hRest : tag.2 <:+ '<' :: t :=
        (((List.suffix_cons _ _).trans hTag).trans hName).trans (List.suffix_cons _ _)
      have hElement (children : List Draft × List Char) (hLeft : children.2 <:+ tag.2) :
          Ensures (readNodes steps depth children.2 >>= fun more =>
            pure (.element name.1 tag.1.1 children.1 :: more.1, more.2)) fun r => r.2 <:+ '<' :: t :=
        (ih _ _).bind fun _ hMore => Ensures.pure ((hMore.trans hLeft).trans hRest)
      dsimp only
      split
      · exact Ensures.error _ _
      · split
        · exact hElement ([], tag.2) (List.suffix_refl _)
        · refine (ih _ _).bind fun children hChildren => ?_
          refine (leaves_readClosing _ _).bind fun rest hClosing => ?_
          exact hElement (children.1, rest)
            (((List.suffix_cons _ _).trans hClosing).trans hChildren)
    · refine (Ensures.trivial _).bind fun drafts _ => (ih _ _).bind fun more hMore => ?_
      exact Ensures.pure (hMore.trans (List.dropWhile_suffix _))

theorem leaves_readName_start (fault : Fault) (s : List Char) :
    Ensures (readName fault s) fun r => r.2 <:+ s ∧ ∃ c t, s = c :: t ∧ isNameStart c := by
  intro r hr
  refine ⟨leaves_readName fault s r hr, ?_⟩
  cases s with
  | nil => exact nomatch hr
  | cons c s =>
    unfold readName at hr
    dsimp only at hr
    split at hr
    · next hStart => exact ⟨c, s, rfl, hStart.1⟩
    · exact nomatch hr

/-- A root begins with its name and ends with a tag. -/
theorem leaves_readRoot (s : List Char) :
    Ensures (readRoot s) fun r => '>' :: r.2 <:+ s ∧ ∃ c t, s = '<' :: c :: t ∧ isNameStart c := by
  unfold readRoot
  split
  · next t =>
    refine Ensures.bind (leaves_readName_start _ t) fun name hName => ?_
    obtain ⟨hLeft, c, u, rfl, hc⟩ := hName
    have hFirst : ∃ d v, '<' :: c :: u = '<' :: d :: v ∧ isNameStart d := ⟨c, u, rfl, hc⟩
    refine (leaves_readAttributes _ _).bind fun tag hTag => ?_
    have hRest := (hTag.trans hLeft).trans (List.suffix_cons '<' (c :: u))
    dsimp only
    split
    · exact Ensures.pure ⟨hRest, hFirst⟩
    · refine (leaves_readNodes _ _ _).bind fun children hChildren => ?_
      refine (leaves_readClosing _ _).bind fun rest hClosing => Ensures.pure ⟨?_, hFirst⟩
      exact (hClosing.trans hChildren).trans ((List.suffix_cons _ _).trans hRest)
  · exact Ensures.error _ _

end SvgBuilder.Markup
