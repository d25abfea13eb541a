import SvgBuilder.Number.Reading
import SvgBuilder.Proofs.Number.Decimal
import SvgBuilder.Proofs.Number.Digits
import SvgBuilder.Proofs.Number.Shortest

/-!
# Reading numbers back

A `Numeral` is the common form of the notations of a number: digits, perhaps a point with digits
behind it, and perhaps an exponent.  It is read as the decimal of its value, so as the double that
the value is near to.  A finite double is written as a numeral near to it in whichever notation,
in full digits, with a fraction or with an exponent, and the reader gives it back.

## Main results

* `Numeral.readDouble?_eq`: a numeral is read as the double that it is near to.
* `exists_numeral_text`: a decimal is written as a numeral of its value in each notation.
* `readDouble?_plainText`: a finite double is read back, without the sign of a zero.
-/

namespace SvgBuilder.Number

open Double SvgBuilder.Text

/-! ## Numerals -/

/-- A magnitude in decimal notation. -/
structure Numeral where
  /-- The digits before the point. -/
  whole : List Char
  /-- The digits behind the point; there is no point without them. -/
  part : List Char
  exponent : Option Int
  isDigits_whole : IsDigits whole
  isDigits_part : IsDigits part
  whole_ne_nil : whole ≠ []

namespace Numeral

/-- The text of the exponent. -/
def ending (n : Numeral) : List Char :=
  (n.exponent.map (exponentText Notation.general.exponentDigits)).getD []

/-- The text of a numeral. -/
def text (n : Numeral) : List Char :=
  n.whole ++ ((if n.part.isEmpty then [] else '.' :: n.part) ++ n.ending)

/-- The digits of a numeral. -/
def digits (n : Numeral) : List Char := n.whole ++ n.part

/-- The value of a numeral. -/
def value (n : Numeral) : ℚ := valueOf n.digits * 10 ^ (n.exponent.getD 0 - n.part.length)

theorem isDigits_digits (n : Numeral) : IsDigits n.digits :=
  isDigits_append.2 ⟨n.isDigits_whole, n.isDigits_part⟩

end Numeral

/-! ## Reading a magnitude -/

theorem exponentText_eq (width : Nat) (e : Int) :
    ∃ zeros, exponentText width e =
      'e' :: (if e < 0 then '-' else '+') :: (List.replicate zeros '0' ++ decimal e.natAbs) :=
  ⟨width - (decimal e.natAbs).length, by simp [exponentText]⟩

theorem readExponent?_exponentText (width : Nat) (e : Int) :
    readExponent? (exponentText width e) = some e := by
  obtain ⟨zeros, hText⟩ := exponentText_eq width e
  have hDigits : IsDigits (List.replicate zeros '0' ++ decimal e.natAbs) :=
    isDigits_append.2 ⟨isDigits_zeros _, isDigits_decimal _⟩
  have hValue : valueOf (List.replicate zeros '0' ++ decimal e.natAbs) = e.natAbs := by
    rw [valueOf_append, valueOf_zeros, valueOf_decimal, Nat.zero_mul, Nat.zero_add]
  have hNil : (List.replicate zeros '0' ++ decimal e.natAbs).map digitOf ≠ [] := by
    simp [decimal_ne_nil]
  have hSign : readSign ((if e < 0 then '-' else '+') ::
      (List.replicate zeros '0' ++ decimal e.natAbs)) =
        (decide (e < 0), List.replicate zeros '0' ++ decimal e.natAbs) := by
    by_cases he : e < 0 <;> simp [he, readSign]
  rw [hText, readExponent?, if_pos (.inl rfl), hSign]
  dsimp only
  rw [spanDigits_eq hDigits]
  rw [valueOf] at hValue
  generalize (List.replicate zeros '0' ++ decimal e.natAbs).map digitOf = ds at *
  cases ds with
  | nil => exact absurd rfl hNil
  | cons d ds =>
    dsimp only
    rw [hValue]
    by_cases he : e < 0
    · simp only [he, decide_true, withSign, if_true]
      congr 1
      omega
    · simp only [he, decide_false, withSign, Bool.false_eq_true, if_false]
      congr 1
      omega

namespace Numeral

theorem readExponent?_ending (n : Numeral) :
    readExponent? n.ending = some (n.exponent.getD 0) := by
  unfold ending
  cases n.exponent with
  | none => rfl
  | some e => exact readExponent?_exponentText _ e

theorem head?_ending (n : Numeral) : n.ending.head? = none ∨ n.ending.head? = some 'e' := by
  unfold ending
  cases n.exponent with
  | none => exact .inl rfl
  | some e => exact .inr rfl

/-- A numeral is read as the decimal of its value. -/
theorem readMagnitude?_eq (n : Numeral) (negative : Bool) :
    readMagnitude? negative n.text =
      some (ofDecimal negative (valueOf n.digits)
        ((n.digits.map digitOf).dropWhile (· = 0)).length
        (n.exponent.getD 0 - n.part.length)) := by
  have hExponent := n.readExponent?_ending
  have hHead := n.head?_ending
  have hEmpty : (n.whole.map digitOf).isEmpty = false := by simpa using n.whole_ne_nil
  unfold text
  generalize n.ending = rest at *
  have hRest : rest.head?.bind asciiDigit? = none := by
    rcases hHead with h | h <;> rw [h] <;> rfl
  unfold readMagnitude?
  by_cases hPart : n.part = []
  · have hPoint : ∀ t, rest ≠ '.' :: t := by
      rintro t rfl
      rcases hHead with h | h <;> simp at h
    rw [hPart, List.isEmpty_nil, if_pos rfl, List.nil_append,
      spanDigits_append n.isDigits_whole hRest]
    dsimp only
    split
    · next t => exact absurd rfl (hPoint t)
    · simp [hEmpty, hExponent, digits, hPart, valueOf]
  · have hPart' : n.part.isEmpty = false := by simpa using hPart
    have hStop : ('.' :: (n.part ++ rest)).head?.bind asciiDigit? = none := rfl
    rw [hPart', if_neg Bool.false_ne_true, List.cons_append,
      spanDigits_append n.isDigits_whole hStop]
    simp only [spanDigits_append n.isDigits_part hRest]
    simp [hEmpty, hExponent, digits, valueOf]

/-- A numeral is read as the finite double that its value is near to. -/
theorem readMagnitude?_near {rank : Nat} (n : Numeral) (h : IsNear rank (n.value / unit rank))
    (hr : rank < finiteRanks) (negative : Bool) :
    readMagnitude? negative n.text = some (.finite negative ⟨rank, hr⟩) := by
  have hLt : ∀ d ∈ n.digits.map digitOf, d < 10 := by
    intro d hd
    obtain ⟨c, hc, rfl⟩ := List.mem_map.1 hd
    exact digitOf_lt (n.isDigits_digits c hc)
  obtain ⟨hHigh, hLow⟩ := ofDigits_bounds hLt
  rw [readMagnitude?_eq]
  exact congrArg some (ofDecimal_eq hHigh hLow h hr negative)

end Numeral

/-! ## Reading a double -/

/-- The characters of a numeral and its sign. -/
def numeralChars : List Char := digitChars ++ ['.', 'e', '+', '-']

theorem isMargin_of_mem {c : Char} (h : c ∈ numeralChars) : isMargin c = false := by
  have hAll : numeralChars.all (fun c => !isMargin c) = true := by decide
  simpa using List.all_eq_true.1 hAll c h

theorem plainDigit_of_mem {c : Char} (h : c ∈ numeralChars) : plainDigit c = c := by
  have hAll : numeralChars.all (fun c => plainDigit c == c) = true := by decide
  simpa using List.all_eq_true.1 hAll c h

theorem withoutMargin_eq {s : List Char} (h : ∀ c ∈ s, c ∈ numeralChars) :
    withoutMargin s = s := by
  have hDrop : ∀ t : List Char, (∀ c ∈ t, c ∈ numeralChars) → t.dropWhile isMargin = t := by
    intro t ht
    cases t with
    | nil => rfl
    | cons c t => rw [List.dropWhile_cons_of_neg (by simp [isMargin_of_mem (ht c (by simp))])]
  unfold withoutMargin
  rw [hDrop s h, hDrop s.reverse fun c hc => h c (List.mem_reverse.1 hc), List.reverse_reverse]

theorem dropUnderscores?_eq {s : List Char} (h : ∀ c ∈ s, c ∈ numeralChars) (after : Bool) :
    dropUnderscores? after s = some s := by
  induction s generalizing after with
  | nil => rfl
  | cons c s ih =>
    have hc : c ≠ '_' := by
      rintro rfl
      exact absurd (h '_' (by simp)) (by decide)
    rw [dropUnderscores?, if_neg hc, ih fun d hd => h d (by simp [hd])]
    rfl

/-- What begins with a digit is no name. -/
theorem namedDouble?_eq_none {c : Char} {s : List Char} (hc : c ∈ digitChars) (negative : Bool) :
    namedDouble? negative (c :: s) = none := by
  have hLower : c.toLower = c := by
    have hAll : digitChars.all (fun c => c.toLower == c) = true := by decide
    simpa using List.all_eq_true.1 hAll c hc
  have hNe : ∀ name : String, name.toList.head? ∉ digitChars.map some →
      String.ofList ((c :: s).map Char.toLower) ≠ name := by
    rintro _ hName rfl
    apply hName
    rw [String.toList_ofList, List.map_cons, List.head?_cons, hLower]
    exact List.mem_map_of_mem hc
  have hInf := hNe "inf" (by decide)
  have hInfinity := hNe "infinity" (by decide)
  have hNan := hNe "nan" (by decide)
  unfold namedDouble?
  dsimp only
  rw [if_neg (not_or.2 ⟨hInf, hInfinity⟩), if_neg hNan]

namespace Numeral

theorem mem_numeralChars (n : Numeral) : ∀ c ∈ n.text, c ∈ numeralChars := by
  have hDigits : ∀ {s : List Char}, IsDigits s → ∀ c ∈ s, c ∈ numeralChars :=
    fun hs c hc => List.mem_append_left _ (hs c hc)
  have hEnding : ∀ c ∈ n.ending, c ∈ numeralChars := by
    unfold ending
    cases n.exponent with
    | none => exact fun c hc => absurd hc (List.not_mem_nil)
    | some e =>
      obtain ⟨zeros, hText⟩ := exponentText_eq Notation.general.exponentDigits e
      rw [Option.map_some, Option.getD_some, hText]
      intro c hc
      rcases List.mem_cons.1 hc with rfl | hc
      · decide
      rcases List.mem_cons.1 hc with rfl | hc
      · split <;> decide
      · exact hDigits (isDigits_append.2 ⟨isDigits_zeros _, isDigits_decimal _⟩) c hc
  intro c hc
  rw [text, List.mem_append, List.mem_append] at hc
  rcases hc with hc | hc | hc
  · exact hDigits n.isDigits_whole c hc
  · split at hc
    · exact absurd hc List.not_mem_nil
    · rcases List.mem_cons.1 hc with rfl | hc
      · decide
      · exact hDigits n.isDigits_part c hc
  · exact hEnding c hc

theorem exists_text_eq_cons (n : Numeral) : ∃ c s, n.text = c :: s ∧ c ∈ digitChars := by
  obtain ⟨c, s, hWhole⟩ := List.exists_cons_of_ne_nil n.whole_ne_nil
  refine ⟨c, _, by rw [text, hWhole, List.cons_append], ?_⟩
  exact n.isDigits_whole c (by simp [hWhole])

/-- The text of a numeral with its sign. -/
theorem mem_numeralChars_signed (n : Numeral) (negative : Bool) :
    ∀ c ∈ signText negative ++ n.text, c ∈ numeralChars := by
  intro c hc
  rcases List.mem_append.1 hc with hc | hc
  · cases negative with
    | false => exact absurd hc List.not_mem_nil
    | true =>
      rw [List.mem_singleton.1 hc]
      decide
  · exact n.mem_numeralChars c hc

theorem readSign_eq (n : Numeral) (negative : Bool) :
    readSign (signText negative ++ n.text) = (negative, n.text) := by
  cases negative with
  | true => rfl
  | false =>
    obtain ⟨c, s, hText, hc⟩ := n.exists_text_eq_cons
    rw [hText]
    unfold readSign signText
    split
    · next h =>
        obtain ⟨rfl, -⟩ := List.cons.inj h
        exact absurd hc (by decide)
    · next h =>
        obtain ⟨rfl, -⟩ := List.cons.inj h
        exact absurd hc (by decide)
    · rfl

/-- A numeral is read as the double that it is near to. -/
theorem readDouble?_eq {rank : Nat} (n : Numeral) (h : IsNear rank (n.value / unit rank))
    (hr : rank < finiteRanks) (negative : Bool) :
    readDouble? (signText negative ++ n.text) = some (.finite negative ⟨rank, hr⟩) := by
  have hChars := n.mem_numeralChars_signed negative
  have hPlain : (signText negative ++ n.text).map plainDigit = signText negative ++ n.text := by
    rw [List.map_congr_left fun c hc => plainDigit_of_mem (hChars c hc), List.map_id']
  obtain ⟨c, s, hText, hc⟩ := n.exists_text_eq_cons
  have hName : namedDouble? negative n.text = none := by
    rw [hText]
    exact namedDouble?_eq_none hc negative
  unfold readDouble?
  rw [withoutMargin_eq hChars, hPlain, dropUnderscores?_eq hChars, Option.bind_some,
    readSign_eq]
  dsimp only
  rw [hName, n.readMagnitude?_near h hr]
  rfl

end Numeral

/-! ## Writing a magnitude -/

section Layout

variable {ds : List Char} (hDigits : IsDigits ds)

include hDigits

/-- Zeros between the point and the digits. -/
theorem exists_numeral_behind (hNil : ds ≠ []) (zeros : Nat) :
    ∃ n : Numeral, n.text = '0' :: '.' :: List.replicate zeros '0' ++ ds ∧
      n.value = valueOf ds * 10 ^ (-(zeros + ds.length : Int)) := by
  refine ⟨⟨['0'], List.replicate zeros '0' ++ ds, none, isDigits_zeros 1,
    isDigits_append.2 ⟨isDigits_zeros _, hDigits⟩, by simp⟩, ?_, ?_⟩
  · simp [Numeral.text, Numeral.ending, hNil]
  · have hZero : valueOf ['0'] = 0 := rfl
    rw [Numeral.value, Numeral.digits, valueOf_append, valueOf_append, valueOf_zeros, hZero]
    simp

/-- Zeros between the digits and the point. -/
theorem exists_numeral_before (hNil : ds ≠ []) (zeros : Nat) :
    ∃ n : Numeral, n.text = ds ++ List.replicate zeros '0' ++ ['.', '0'] ∧
      n.value = valueOf ds * 10 ^ (zeros : Int) := by
  refine ⟨⟨ds ++ List.replicate zeros '0', ['0'], none,
    isDigits_append.2 ⟨hDigits, isDigits_zeros _⟩, isDigits_zeros 1, by simp [hNil]⟩, ?_, ?_⟩
  · simp [Numeral.text, Numeral.ending]
  · have hZero : valueOf ['0'] = 0 := rfl
    have hExponent : (none : Option Int).getD 0 - (['0'].length : Int) = -1 := rfl
    rw [Numeral.value, Numeral.digits, hExponent, valueOf_append, valueOf_append, valueOf_zeros,
      hZero, zpow_natCast, List.length_replicate]
    push_cast
    field_simp
    simp

/-- The point between two digits. -/
theorem exists_numeral_between {point : Nat} (hPoint : 0 < point) (hLength : point < ds.length) :
    ∃ n : Numeral, n.text = ds.take point ++ '.' :: ds.drop point ∧
      n.value = valueOf ds * 10 ^ ((point : Int) - ds.length) := by
  have hTake : ds.take point ≠ [] := List.ne_nil_of_length_pos (by simp; omega)
  have hDrop : ds.drop point ≠ [] := List.ne_nil_of_length_pos (by simp; omega)
  refine ⟨⟨ds.take point, ds.drop point, none, fun c hc => hDigits c (List.mem_of_mem_take hc),
    fun c hc => hDigits c (List.mem_of_mem_drop hc), hTake⟩, ?_, ?_⟩
  · simp [Numeral.text, Numeral.ending, hDrop]
  · have hExponent : (none : Option Int).getD 0 - ((ds.drop point).length : Int) =
        point - ds.length := by
      rw [List.length_drop, Option.getD_none]
      omega
    rw [Numeral.value, Numeral.digits, hExponent, List.take_append_drop]

end Layout

/-- One digit before the point, and an exponent. -/
theorem exists_numeral_exponent {c : Char} {cs : List Char} (hDigits : IsDigits (c :: cs))
    (e : Int) :
    ∃ n : Numeral, n.text = c :: ((if cs.isEmpty then [] else '.' :: cs) ++
        exponentText Notation.general.exponentDigits e) ∧
      n.value = valueOf (c :: cs) * 10 ^ (e - cs.length) :=
  ⟨⟨[c], cs, some e, fun b hb => hDigits b (by simp_all), fun b hb => hDigits b (by simp [hb]),
    by simp⟩, rfl, rfl⟩

/-- A decimal is written as a numeral of its value. -/
theorem exists_numeral_text {d : Decimal} (hd : d.coefficient ≠ 0) :
    ∃ n : Numeral, n.text = d.text .general ∧ n.value = d.coefficient * 10 ^ d.exponent := by
  have hDigits := isDigits_decimal d.coefficient
  have hNil := decimal_ne_nil d.coefficient
  have hValue := valueOf_decimal d.coefficient
  unfold Decimal.text
  dsimp only
  rw [if_neg hd]
  generalize decimal d.coefficient = ds at *
  by_cases hStyle : Notation.general.minPoint ≤ ds.length + d.exponent ∧
      ds.length + d.exponent ≤ Notation.general.maxPoint
  · rw [if_pos hStyle]
    by_cases hPoint : ds.length + d.exponent ≤ 0
    · obtain ⟨n, hText, hNumeral⟩ :=
        exists_numeral_behind hDigits hNil (-(ds.length + d.exponent)).toNat
      have hExponent : -((-(ds.length + d.exponent)).toNat + ds.length : Int) = d.exponent := by
        omega
      rw [if_pos hPoint]
      exact ⟨n, hText, by rw [hNumeral, hExponent, hValue]⟩
    rw [if_neg hPoint]
    by_cases hLength : ds.length ≤ (ds.length + d.exponent).toNat
    · obtain ⟨n, hText, hNumeral⟩ :=
        exists_numeral_before hDigits hNil ((ds.length + d.exponent).toNat - ds.length)
      have hExponent : (((ds.length + d.exponent).toNat - ds.length : Nat) : Int) = d.exponent := by
        omega
      rw [if_pos hLength]
      exact ⟨n, hText, by rw [hNumeral, hExponent, hValue]⟩
    · have hPositive : 0 < (ds.length + d.exponent).toNat := by omega
      obtain ⟨n, hText, hNumeral⟩ := exists_numeral_between hDigits hPositive (not_le.1 hLength)
      have hExponent : ((ds.length + d.exponent).toNat : Int) - ds.length = d.exponent := by omega
      rw [if_neg hLength]
      exact ⟨n, hText, by rw [hNumeral, hExponent, hValue]⟩
  · obtain ⟨c, cs, rfl⟩ := List.exists_cons_of_ne_nil hNil
    obtain ⟨n, hText, hNumeral⟩ :=
      exists_numeral_exponent hDigits ((c :: cs).length + d.exponent - 1)
    have hExponent : (c :: cs).length + d.exponent - 1 - cs.length = d.exponent := by
      rw [List.length_cons]
      omega
    rw [if_neg hStyle]
    refine ⟨n, ?_, by rw [hNumeral, hExponent, hValue]⟩
    cases cs <;> simp [hText]

/-! ## The round trip of a double -/

/-- A double without the sign of a zero. -/
def Double.unsignedZero : Double → Double
  | .finite negative rank => .finite (negative && rank.val ≠ 0) rank
  | x => x

theorem toList_integerText (negative : Bool) (n : Nat) :
    (integerText (withSign negative n)).toList =
      signText (negative && n ≠ 0) ++ decimal n := by
  cases negative with
  | false => simp [withSign, integerText, signText]
  | true =>
    cases n with
    | zero =>
      have hZero : withSign true 0 = Int.ofNat 0 := rfl
      rw [hZero, integerText, String.toList_ofList]
      rfl
    | succ n =>
      have hSucc : withSign true (n + 1) = Int.negSucc n := rfl
      rw [hSucc, integerText, String.toList_ofList]
      rfl

/-- An integral magnitude is its integer part. -/
theorem integerPart_eq {rank : Nat} (h : isIntegral rank = true) :
    (integerPart rank : ℚ) = magnitude rank := by
  have hMod : (fraction rank).1 % (fraction rank).2 = 0 := by simpa [isIntegral] using h
  have hDen : ((fraction rank).2 : ℚ) ≠ 0 := by exact_mod_cast (fraction_snd_pos rank).ne'
  rw [← fraction_eq, integerPart, Nat.cast_div (Nat.dvd_of_mod_eq_zero hMod) hDen]

/-- A finite double is written as a numeral that is near to it. -/
theorem exists_numeral_plainText (negative : Bool) (rank : Fin finiteRanks) :
    ∃ n : Numeral,
      (plainText (.finite negative rank)).toList =
        signText (negative && rank.val ≠ 0) ++ n.text ∧
      IsNear rank (n.value / unit rank) := by
  have hUnit := (unit_pos rank).ne'
  unfold plainText
  dsimp only
  by_cases hIntegral : isIntegral rank = true
  · have hMagnitude := integerPart_eq hIntegral
    have hZero : integerPart rank = 0 ↔ rank.val = 0 := by
      rw [← Nat.cast_eq_zero (R := ℚ), hMagnitude, magnitude_eq_zero_iff]
    refine ⟨⟨decimal (integerPart rank), [], none, isDigits_decimal _,
      fun c hc => absurd hc List.not_mem_nil, decimal_ne_nil _⟩, ?_, ?_⟩
    · rw [if_pos hIntegral, toList_integerText]
      simp [Numeral.text, Numeral.ending, hZero]
    · have hUnits : magnitude rank / unit rank = significand rank := by
        rw [magnitude, mul_div_cancel_right₀ _ hUnit]
      have hValue : valueOf (decimal (integerPart rank) ++ []) = integerPart rank := by
        rw [List.append_nil, valueOf_decimal]
      have hNear := isNear_significand rank
      simpa [Numeral.value, Numeral.digits, valueOf_decimal, hMagnitude, hUnits] using hNear
  · have hr : rank.val ≠ 0 := by
      intro h
      rw [h] at hIntegral
      exact hIntegral (by simp [isIntegral, fraction_zero])
    have hNear := shortest_isNear hr
    have hCoefficient : (shortest rank).coefficient ≠ 0 := by
      intro h
      rw [h, Nat.cast_zero, zero_mul, zero_div] at hNear
      exact hr (hNear.eq_zero (by norm_num))
    obtain ⟨n, hText, hValue⟩ := exists_numeral_text hCoefficient
    refine ⟨n, ?_, by rwa [hValue]⟩
    rw [if_neg hIntegral, text, String.toList_ofList, hText]
    simp [hr]

/-- A finite double is read back, without the sign of a zero. -/
theorem readDouble?_plainText {x : Double} (h : x.isFinite = true) :
    readDouble? x.plainText.toList = some x.unsignedZero := by
  cases x with
  | finite negative rank =>
    obtain ⟨n, hText, hNear⟩ := exists_numeral_plainText negative rank
    rw [hText, n.readDouble?_eq hNear rank.isLt]
    rfl
  | infinite negative => exact nomatch h
  | nan => exact nomatch h

end SvgBuilder.Number
