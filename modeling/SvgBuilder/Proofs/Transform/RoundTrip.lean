import SvgBuilder.Proofs.Diagnostic
import SvgBuilder.Proofs.Number.Reading
import SvgBuilder.Proofs.Text.Split
import SvgBuilder.Proofs.Transform.Call
import SvgBuilder.Transform.Reader

/-!
# Reading transform lists back

A list of transforms is written call by call, argument by argument and digit by digit, and each of
these layers is undone by its reader: the calls are found between the blanks, the arguments between
the commas, and every argument is the number that it was written for.  What the notation does not
hold is lost: half a centre of a rotation, and the sign of a zero.

## Main results

* `normalized_eq_self_iff`: what is lost in writing a transform.
* `readArguments_call`: the arguments of a call are read back.
* `isFinite_of_mem_readList`: whatever is read has finite arguments only.
* `readList_listText`: a written list is read back without a note, and what has been read and
  written once stays the same text.
-/

namespace SvgBuilder

open SvgBuilder.Number SvgBuilder.Text

/-! ## Numbers -/

namespace Number

theorem isBlank_of_mem {c : Char} (h : c ∈ numeralChars) : isBlank c = false := by
  have hAll : numeralChars.all (fun c => !isBlank c) = true := by decide
  simpa using List.all_eq_true.1 hAll c h

theorem isArgument_of_mem {c : Char} (h : c ∈ numeralChars) : Call.isArgument c = true := by
  have hAll : numeralChars.all Call.isArgument = true := by decide
  exact List.all_eq_true.1 hAll c h

/-- A finite double is written with the characters of a numeral. -/
theorem mem_numeralChars_plainText {x : Double} (h : x.isFinite = true) :
    ∀ c ∈ x.plainText.toList, c ∈ numeralChars := by
  cases x with
  | finite negative rank =>
    obtain ⟨n, hText, -⟩ := exists_numeral_plainText negative rank
    rw [hText]
    exact n.mem_numeralChars_signed _
  | infinite negative => exact nomatch h
  | nan => exact nomatch h

theorem plainText_ne_nil {x : Double} (h : x.isFinite = true) : x.plainText.toList ≠ [] := by
  intro hNil
  have hRead := readDouble?_plainText h
  rw [hNil, readDouble?_nil] at hRead
  exact nomatch hRead

theorem isFinite_unsignedZero {x : Double} (h : x.isFinite = true) :
    x.unsignedZero.isFinite = true := by
  cases x with
  | finite negative rank => rfl
  | infinite negative => exact nomatch h
  | nan => exact nomatch h

/-- The sign of a zero is not written. -/
theorem plainText_unsignedZero (x : Double) : x.unsignedZero.plainText = x.plainText := by
  cases x with
  | finite negative rank =>
    by_cases hr : rank.val = 0
    · have hIntegral : Double.isIntegral rank = true := by
        rw [hr]
        simp [Double.isIntegral, fraction_zero]
      have hPart : Double.integerPart rank = 0 := by
        rw [hr]
        simp [Double.integerPart, fraction_zero]
      have hSign : ∀ sign, Double.withSign sign 0 = 0 := by
        intro sign
        cases sign <;> rfl
      simp [Double.unsignedZero, Double.plainText, hIntegral, hPart, hSign]
    · simp [Double.unsignedZero, hr]
  | infinite negative => rfl
  | nan => rfl

theorem unsignedZero_eq_self_iff {x : Double} : x.unsignedZero = x ↔ x ≠ .negate .zero := by
  cases x with
  | finite negative rank =>
    by_cases hr : rank.val = 0
    · obtain rfl : rank = ⟨0, by decide⟩ := Fin.ext hr
      cases negative <;> decide
    · have hRank : rank ≠ ⟨0, by decide⟩ := fun h => hr (congrArg Fin.val h)
      simp [Double.unsignedZero, Double.negate, Double.zero, hr, hRank]
  | infinite negative => exact iff_of_true rfl (fun h => nomatch h)
  | nan => exact iff_of_true rfl (fun h => nomatch h)

end Number

namespace Transform

/-! ## What is kept -/

/-- A transform as its text holds it: a rotation has both coordinates of its centre or none, and
a zero has no sign. -/
def normalized : Transform → Transform
  | .matrix a b c d e f =>
    .matrix a.unsignedZero b.unsignedZero c.unsignedZero d.unsignedZero e.unsignedZero
      f.unsignedZero
  | .translate x y => .translate x.unsignedZero (y.map Double.unsignedZero)
  | .scale x y => .scale x.unsignedZero (y.map Double.unsignedZero)
  | .rotate angle (some cx) (some cy) =>
    .rotate angle.unsignedZero (some cx.unsignedZero) (some cy.unsignedZero)
  | .rotate angle _ _ => .rotate angle.unsignedZero none none
  | .skewX angle => .skewX angle.unsignedZero
  | .skewY angle => .skewY angle.unsignedZero

/-- Nothing but half a centre and the sign of a zero is lost. -/
theorem normalized_eq_self_iff {t : Transform} :
    t.normalized = t ↔ (∀ x ∈ t.arguments, x ≠ .negate .zero) ∧
      ∀ angle cx cy, t = .rotate angle cx cy → cx.isSome = cy.isSome := by
  cases t with
  | matrix a b c d e f => simp [normalized, arguments, unsignedZero_eq_self_iff]
  | translate x y => cases y <;> simp [normalized, arguments, unsignedZero_eq_self_iff]
  | scale x y => cases y <;> simp [normalized, arguments, unsignedZero_eq_self_iff]
  | rotate angle cx cy =>
    cases cx <;> cases cy <;> simp [normalized, arguments, unsignedZero_eq_self_iff]
  | skewX angle => simp [normalized, arguments, unsignedZero_eq_self_iff]
  | skewY angle => simp [normalized, arguments, unsignedZero_eq_self_iff]

theorem functionName_normalized (t : Transform) : t.normalized.functionName = t.functionName := by
  unfold normalized
  split <;> rfl

theorem arguments_normalized (t : Transform) :
    t.normalized.arguments = t.arguments.map Double.unsignedZero := by
  cases t with
  | matrix a b c d e f => rfl
  | translate x y => cases y <;> rfl
  | scale x y => cases y <;> rfl
  | rotate angle cx cy => cases cx <;> cases cy <;> rfl
  | skewX angle => rfl
  | skewY angle => rfl

theorem text_normalized (t : Transform) : t.normalized.text = t.text := by
  have hTexts : (t.arguments.map Double.unsignedZero).map Double.plainText =
      t.arguments.map Double.plainText := by
    rw [List.map_map]
    exact List.map_congr_left fun x _ => plainText_unsignedZero x
  rw [text, functionName_normalized, arguments_normalized, hTexts, text]

theorem listText_normalized (ts : List Transform) :
    listText (ts.map normalized) = listText ts := by
  rw [listText, List.map_map]
  exact congrArg (joined " ") (List.map_congr_left fun t _ => text_normalized t)

/-- The name and the written arguments determine what is kept of a transform. -/
theorem ofCall?_arguments (t : Transform) :
    ofCall? t.functionName (t.arguments.map Double.unsignedZero) = some t.normalized := by
  cases t with
  | matrix a b c d e f => rfl
  | translate x y => cases y <;> rfl
  | scale x y => cases y <;> rfl
  | rotate angle cx cy => cases cx <;> cases cy <;> rfl
  | skewX angle => rfl
  | skewY angle => rfl

/-! ## Reading what is written -/

/-- The call that a transform is written as. -/
def call (t : Transform) : Call :=
  ⟨t.functionName.toList, [], (joined "," (t.arguments.map Double.plainText)).toList⟩

theorem toList_text (t : Transform) : t.text.toList = t.call.text := by
  simp [text, call, Call.text]

theorem isPlain_call {t : Transform} (h : ∀ x ∈ t.arguments, x.isFinite = true) :
    t.call.IsPlain := by
  have hName : (t.functionName.toList.head?.map Call.isNameStart).getD false = true ∧
      t.functionName.toList.all isWord = true := by
    cases t <;> (dsimp only [functionName]; decide)
  have hComma : ∀ c ∈ [','], Call.isArgument c = true := by
    intro c hc
    rw [List.mem_singleton.1 hc]
    decide
  refine ⟨hName.1, List.all_eq_true.1 hName.2, rfl, ?_⟩
  rw [call, joined, String.toList_intercalate]
  refine forall_mem_intercalate hComma fun piece hPiece c hc => ?_
  rw [List.map_map] at hPiece
  obtain ⟨x, hx, rfl⟩ := List.mem_map.1 hPiece
  exact isArgument_of_mem (mem_numeralChars_plainText (h x hx) c hc)

theorem readNumber_plainText {x : Double} (h : x.isFinite = true) :
    readNumber x.plainText.toList = pure x.unsignedZero := by
  have hRead : (readDouble? x.plainText.toList).filter Double.isFinite = some x.unsignedZero := by
    rw [readDouble?_plainText h, Option.filter_some, if_pos (isFinite_unsignedZero h)]
  unfold readNumber
  rw [hRead]

theorem readPiece_plainText {x : Double} (h : x.isFinite = true) :
    readPiece x.plainText.toList = ⟨[x.unsignedZero], []⟩ := by
  have hBlank : ∀ c ∈ x.plainText.toList, isBlank c = false :=
    fun c hc => isBlank_of_mem (mem_numeralChars_plainText h c hc)
  unfold readPiece
  rw [words_eq_singleton hBlank (plainText_ne_nil h)]
  dsimp only
  rw [List.mapM_cons, readNumber_plainText h]
  rfl

/-- The arguments of a call are read back. -/
theorem readArguments_call {t : Transform} (h : ∀ x ∈ t.arguments, x.isFinite = true) :
    readArguments t.call.arguments = ⟨t.arguments.map Double.unsignedZero, []⟩ := by
  have hComma : ∀ piece ∈ (t.arguments.map Double.plainText).map String.toList, ',' ∉ piece := by
    intro piece hPiece hc
    rw [List.map_map] at hPiece
    obtain ⟨x, hx, rfl⟩ := List.mem_map.1 hPiece
    exact absurd (mem_numeralChars_plainText (h x hx) ',' hc) (by decide)
  have hNil : (t.arguments.map Double.plainText).map String.toList ≠ [] := by
    simp [arguments_ne_nil]
  have hPieces : splitAt ',' t.call.arguments =
      (t.arguments.map Double.plainText).map String.toList := by
    rw [call, joined, String.toList_intercalate]
    exact splitAt_intercalate hNil hComma
  have hRead : (splitAt ',' t.call.arguments).mapM readPiece =
      ⟨t.arguments.map fun x => [x.unsignedZero], []⟩ := by
    rw [hPieces, List.map_map, Noted.mapM_map_eq]
    intro x hx
    exact readPiece_plainText (h x hx)
  unfold readArguments
  rw [hRead]
  refine Noted.ext ?_ rfl
  show (t.arguments.map fun x => [x.unsignedZero]).flatten = _
  rw [← List.flatMap_def, ← List.map_eq_flatMap]

theorem ofCall_call {t : Transform} (h : ∀ x ∈ t.arguments, x.isFinite = true) (strict : Bool) :
    ofCall strict t.call = ⟨[t.normalized], []⟩ := by
  have hName : String.ofList t.call.name = t.functionName := String.ofList_toList
  unfold ofCall
  rw [readArguments_call h, hName]
  refine Noted.ext ?_ ?_
  · rw [Noted.value_bind]
    dsimp only
    rw [ofCall?_arguments]
    rfl
  · rw [Noted.notes_bind]
    dsimp only
    rw [ofCall?_arguments]
    rfl

theorem readList_text {ts : List Transform} (strict : Bool)
    (h : ∀ t ∈ ts, ∀ x ∈ t.arguments, x.isFinite = true) :
    readList strict (listText ts) = ⟨ts.map normalized, []⟩ := by
  have hText : (listText ts).toList =
      List.intercalate [' '] ((ts.map call).map Call.text) := by
    rw [listText, joined, String.toList_intercalate, List.map_map, List.map_map]
    congr 1
    exact List.map_congr_left fun t _ => toList_text t
  have hCalls : calls (listText ts).toList = ts.map call := by
    rw [hText]
    apply calls_intercalate
    intro c hc
    obtain ⟨t, ht, rfl⟩ := List.mem_map.1 hc
    exact isPlain_call (h t ht)
  have hRead : (calls (listText ts).toList).mapM (ofCall strict) =
      ⟨ts.map fun t => [t.normalized], []⟩ := by
    rw [hCalls, Noted.mapM_map_eq]
    intro t ht
    exact ofCall_call (h t ht) strict
  unfold readList
  rw [hRead]
  refine Noted.ext ?_ rfl
  show (ts.map fun t => [t.normalized]).flatten = _
  rw [← List.flatMap_def, ← List.map_eq_flatMap]

/-! ## What is read is finite -/

theorem isFinite_of_mem_readPiece {piece : List Char} :
    ∀ x ∈ (readPiece piece).value, x.isFinite = true := by
  unfold readPiece
  cases words piece with
  | nil =>
    intro x hx
    rw [List.mem_singleton.1 hx]
    rfl
  | cons token tokens =>
    dsimp only
    rw [Noted.value_mapM]
    intro x hx
    obtain ⟨t, -, rfl⟩ := List.mem_map.1 hx
    exact readNumber_isFinite t

theorem isFinite_of_mem_readArguments {s : List Char} :
    ∀ x ∈ (readArguments s).value, x.isFinite = true := by
  unfold readArguments
  rw [Noted.value_bind, Noted.value_mapM, Noted.value_pure]
  intro x hx
  obtain ⟨numbers, hNumbers, hx⟩ := List.mem_flatten.1 hx
  obtain ⟨piece, -, rfl⟩ := List.mem_map.1 hNumbers
  exact isFinite_of_mem_readPiece x hx

/-- All numbers of a transform, those included that are not written because one is missing. -/
def numbers : Transform → List Double
  | .matrix a b c d e f => [a, b, c, d, e, f]
  | .translate x y => x :: y.toList
  | .scale x y => x :: y.toList
  | .rotate angle cx cy => angle :: (cx.toList ++ cy.toList)
  | .skewX angle => [angle]
  | .skewY angle => [angle]

theorem arguments_subset_numbers (t : Transform) : t.arguments ⊆ t.numbers := by
  cases t with
  | rotate angle cx cy =>
    cases cx with
    | none => simp [arguments, numbers]
    | some cx => cases cy <;> simp [arguments, numbers]
  | _ => exact fun x hx => hx

/-- A transform has no other numbers than those that it was made of. -/
theorem mem_of_mem_numbers {name : String} {operands : List Double} {t : Transform}
    (h : ofCall? name operands = some t) : ∀ x ∈ t.numbers, x ∈ operands := by
  cases operands with
  | nil => exact nomatch h
  | cons first rest =>
    have hFirst : ∀ x, x = first → x ∈ first :: rest :=
      fun x hx => List.mem_cons.2 (.inl hx)
    have hOptional : ∀ (i : Nat) (x : Double), x ∈ rest[i]?.toList → x ∈ first :: rest :=
      fun i x hx => List.mem_cons_of_mem _ (List.mem_of_getElem? (Option.mem_toList.1 hx))
    unfold ofCall? at h
    dsimp only at h
    split at h
    · split at h
      · obtain rfl := Option.some.inj h
        exact fun x hx => hx
      · exact nomatch h
    split at h
    · obtain rfl := Option.some.inj h
      exact fun x hx => (List.mem_cons.1 hx).elim (hFirst x) (hOptional 0 x)
    split at h
    · obtain rfl := Option.some.inj h
      exact fun x hx => (List.mem_cons.1 hx).elim (hFirst x) (hOptional 0 x)
    split at h
    · obtain rfl := Option.some.inj h
      intro x hx
      rcases List.mem_cons.1 hx with hx | hx
      · exact hFirst x hx
      · exact (List.mem_append.1 hx).elim (hOptional 0 x) (hOptional 1 x)
    split at h
    · obtain rfl := Option.some.inj h
      exact fun x hx => hFirst x (List.mem_singleton.1 hx)
    split at h
    · obtain rfl := Option.some.inj h
      exact fun x hx => hFirst x (List.mem_singleton.1 hx)
    · exact nomatch h

theorem isFinite_of_mem_ofCall {strict : Bool} {c : Call} :
    ∀ t ∈ (ofCall strict c).value, ∀ x ∈ t.numbers, x.isFinite = true := by
  have hArguments := @isFinite_of_mem_readArguments c.arguments
  unfold ofCall
  rw [Noted.value_bind]
  dsimp only
  split
  · next t ht =>
    intro u hu x hx
    rw [List.mem_singleton.1 hu] at hx
    exact hArguments x (mem_of_mem_numbers ht x hx)
  · split
    · exact fun t ht => absurd ht List.not_mem_nil
    · intro t ht x hx
      rw [List.mem_singleton.1 ht] at hx
      rw [List.mem_singleton.1 hx]
      rfl

/-- Whatever is read has finite numbers only. -/
theorem isFinite_numbers_of_mem_readList {strict : Bool} {v : String} :
    ∀ t ∈ (readList strict v).value, ∀ x ∈ t.numbers, x.isFinite = true := by
  unfold readList
  rw [Noted.value_bind, Noted.value_mapM, Noted.value_pure]
  intro t ht
  obtain ⟨part, hPart, ht⟩ := List.mem_flatten.1 ht
  obtain ⟨c, -, rfl⟩ := List.mem_map.1 hPart
  exact isFinite_of_mem_ofCall t ht

theorem isFinite_of_mem_readList {strict : Bool} {v : String} :
    ∀ t ∈ (readList strict v).value, ∀ x ∈ t.arguments, x.isFinite = true :=
  fun t ht x hx => isFinite_numbers_of_mem_readList t ht x (arguments_subset_numbers t hx)

/-! ## The round trip -/

/-- A list whose arguments are finite is read back from its text without a note.  Whatever has
been read from any text and written is the text that it is read and written as again. -/
theorem readList_listText (strict : Bool) :
    (∀ ts : List Transform, (∀ t ∈ ts, ∀ x ∈ t.arguments, x.isFinite = true) →
      readList strict (listText ts) = ⟨ts.map normalized, []⟩) ∧
    ∀ (before : Bool) (v : String),
      listText (readList strict (listText (readList before v).value)).value =
        listText (readList before v).value := by
  refine ⟨fun ts h => readList_text strict h, fun before v => ?_⟩
  rw [readList_text strict isFinite_of_mem_readList]
  exact listText_normalized _

/-- A half, the ten millionth part of one, and the twenty-second power of ten, with a centre that
is not whole and a zero with a sign. -/
def mixedList : List Transform := [
  .rotate (.ofDecimal false 5 1 (-1)) (some (.ofNat 1)) none,
  .translate (.ofDecimal true 1 1 (-7)) (some (.negate .zero)),
  .scale (.ofDecimal false 1 1 22) none]

theorem readList_listText_mixed :
    (∀ t ∈ mixedList, ∀ x ∈ t.arguments, x.isFinite = true) ∧
      listText mixedList = "rotate(0.5) translate(-1e-07,0) scale(10000000000000000000000)" ∧
      readList true (listText mixedList) = ⟨mixedList.map normalized, []⟩ ∧
      mixedList.map normalized ≠ mixedList :=
  have hFinite : ∀ t ∈ mixedList, ∀ x ∈ t.arguments, x.isFinite = true := by decide +kernel
  ⟨hFinite, by decide +kernel, (readList_listText true).1 mixedList hFinite, by decide +kernel⟩

end Transform

end SvgBuilder
