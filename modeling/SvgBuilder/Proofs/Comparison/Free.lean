import SvgBuilder.Component.Assembly
import SvgBuilder.Component.Name
import SvgBuilder.Proofs.Diagnostic
import SvgBuilder.Proofs.Markup.Names
import SvgBuilder.Proofs.Text.Infix
import SvgBuilder.Proofs.Text.Split
import SvgBuilder.Proofs.Transform.RoundTrip

/-!
# Texts without the opening of a method

The pattern for attributes takes everything between the quotes of an argument of the builder method
for other attributes.  Where a text of the document holds the opening of a call of that method, the
pattern may run over what comes behind it.  This file is about the texts that do not hold it, and
about what is made of them: literals, line comments, documentation, names of modules.  None of these
holds the opening either, whatever is escaped, cut off or put into upper case.

## Main results

* `IsFree.append_cons`: free texts with a character between them that the opening does not hold.
* `IsFree.encode`, `IsFree.lineComment`, `IsFree.documentationText`, `IsFree.moduleName`: what is
  made of free texts is free.
-/

namespace SvgBuilder

open SvgBuilder.Markup SvgBuilder.Text

/-- The opening of a call of the builder method for other attributes. -/
def otherOpening : List Char := "svgAttr(".toList

/-- Whether a text does not hold the opening of such a call. -/
def IsFree (s : List Char) : Prop := ¬otherOpening <:+: s

instance (s : List Char) : Decidable (IsFree s) := inferInstanceAs (Decidable (¬_))

namespace IsFree

variable {a b s t : List Char} {c : Char}

theorem of_isInfix (h : IsFree s) (ht : t <:+: s) : IsFree t := fun hOpening => h (hOpening.trans ht)

theorem of_not_mem (hc : c ∈ otherOpening) (h : c ∉ s) : IsFree s :=
  fun hOpening => h (hOpening.subset hc)

theorem append_cons (ha : IsFree a) (hb : IsFree b) (hc : c ∉ otherOpening) :
    IsFree (a ++ c :: b) :=
  fun hOpening => (infix_append_cons hOpening hc).elim ha hb

/-- Free parts with a separator of one character between them. -/
theorem joined {sep : String} (hSep : sep.toList = [c]) (hc : c ∉ otherOpening)
    {parts : List String} (h : ∀ part ∈ parts, IsFree part.toList) :
    IsFree (joined sep parts).toList := by
  induction parts with
  | nil => exact of_not_mem (c := 's') (by decide) List.not_mem_nil
  | cons part parts ih =>
    have hPart := h part (by simp)
    have hRest := ih fun p hp => h p (List.mem_cons_of_mem _ hp)
    cases parts with
    | nil => simpa [Text.joined] using hPart
    | cons next parts =>
      have hText : (Text.joined sep (part :: next :: parts)).toList =
          part.toList ++ c :: (Text.joined sep (next :: parts)).toList := by
        rw [Text.joined, String.intercalate_cons_cons, String.toList_append, String.toList_append,
          hSep, List.append_assoc]
        rfl
      exact hText ▸ hPart.append_cons hRest hc

/-- Names of markup are free: they hold no parenthesis. -/
theorem of_isNameText (h : IsNameText s) : IsFree s := by
  refine of_not_mem (c := '(') (by decide) fun hMem => ?_
  exact absurd (h _ hMem) (by decide)

theorem trimmed {s : String} (h : IsFree s.toList) : IsFree (trimmed s).toList := by
  rw [Text.trimmed, String.toList_ofList]
  exact h.of_isInfix (isInfix_trim _)

theorem integerText (i : Int) : IsFree (Number.integerText i).toList := by
  refine of_not_mem (c := 'v') (by decide) ?_
  have hDigits (n : Nat) : 'v' ∉ Number.decimal n := fun hMem =>
    absurd (Number.isDigits_decimal n _ hMem) (by decide)
  cases i with
  | ofNat n => simpa [Number.integerText] using hDigits n
  | negSucc n => simpa [Number.integerText] using hDigits (n + 1)

/-! ## Literals -/

/-- Escapes begin with a backslash, and the opening does not begin with a letter that is used in
one. -/
theorem replaces_encode (s : List Char) : Replaces otherOpening s (Literal.encode s) := by
  induction s with
  | nil => exact .nil
  | cons c s ih =>
    have hEscape (d : Char) (hd : 's' ≠ d) :
        Replaces otherOpening (c :: s) ('\\' :: [d] ++ Literal.encode s) := by
      refine .put [c] (by decide) (fun e he => ?_) ih
      obtain rfl : 's' = e := Option.some.inj he
      simp [hd]
    show Replaces otherOpening (c :: s) (Literal.encodeChar c ++ Literal.encode s)
    unfold Literal.encodeChar
    iterate 5
      split
      · exact hEscape _ (by decide)
    exact .keep c ih

theorem encode (h : IsFree s) : IsFree (Literal.encode s) :=
  fun hOpening => h ((replaces_encode s).of_isInfix hOpening)

/-! ## Comments -/

theorem commentLine (h : IsFree s) : IsFree (commentLine s).toList := by
  have hMark : IsFree ['/', '/'] := by decide
  rw [SvgBuilder.commentLine, String.toList_ofList]
  exact (hMark.append_cons h (by decide : ' ' ∉ otherOpening)).of_isInfix (isPrefix_trimEnd _).isInfix

/-- Line comments of a free text. -/
theorem lineComment {s : String} (h : IsFree s.toList) : IsFree (lineComment s).toList := by
  refine joined (c := '\n') rfl (by decide) fun part hPart => ?_
  obtain ⟨line, hLine, rfl⟩ := List.mem_map.1 hPart
  refine commentLine ?_
  unfold commentLines at hLine
  split at hLine
  · rw [List.mem_singleton.1 hLine]
    decide
  · exact h.of_isInfix ((infix_of_mem_lines hLine).trans (isInfix_trim _))

/-! ## Documentation -/

theorem replaces_replacedPair {w : List Char} {a b c : Char} {new : List Char} (hc : c ∉ w)
    (hNew : ∀ d ∈ w.head?, d ∉ c :: new) (s : List Char) :
    Replaces w s (replacedPair a b (c :: new) s) := by
  fun_induction replacedPair a b (c :: new) s with
  | case1 => exact .nil
  | case2 d => exact .keep d .nil
  | case3 d e s h ih => exact .put [d, e] hc hNew ih
  | case4 d e s h ih => exact .keep d ih

theorem replacedPair {a b c : Char} {new : List Char} (hc : c ∉ otherOpening)
    (hNew : 's' ∉ c :: new) (h : IsFree s) : IsFree (replacedPair a b (c :: new) s) := by
  have hHead : ∀ d ∈ otherOpening.head?, d ∉ c :: new := by
    intro d hd
    obtain rfl : 's' = d := Option.some.inj hd
    exact hNew
  exact fun hOpening => h ((replaces_replacedPair hc hHead s).of_isInfix hOpening)

theorem documentationText {s : String} (h : IsFree s.toList) :
    IsFree (documentationText s).toList := by
  have hWords : IsFree (Text.joined " " ((words s.toList).map String.ofList)).toList := by
    refine joined (c := ' ') rfl (by decide) fun part hPart => ?_
    obtain ⟨word, hWord, rfl⟩ := List.mem_map.1 hPart
    rw [String.toList_ofList]
    exact h.of_isInfix (infix_of_mem_words hWord)
  rw [SvgBuilder.documentationText, String.toList_ofList]
  exact replacedPair (c := '/') (by decide) (by decide)
    (replacedPair (c := '*') (by decide) (by decide) hWords)

/-! ## Names of modules -/

theorem ofNat_ne {n : Nat} (h : n ≠ 's'.toNat) : Char.ofNat n ≠ 's' := by
  intro hChar
  have hCode := congrArg Char.toNat hChar
  rw [Char.toNat_ofNat] at hCode
  split at hCode
  · exact h hCode
  · exact absurd hCode (by decide)

theorem imageIn_ne {runs : List CaseRun} {code n : Nat} (h : code ≠ n)
    (hRuns : ∀ run ∈ runs, n < run.target ∨ run.target + (run.last - run.first) < n) :
    CaseRun.imageIn runs code ≠ n := by
  unfold CaseRun.imageIn
  cases hImage : runs.findSome? (CaseRun.image? · code) with
  | none => exact h
  | some image =>
    obtain ⟨run, hRun, hImage⟩ := List.exists_of_findSome?_eq_some hImage
    unfold CaseRun.image? at hImage
    split at hImage
    · next hHolds =>
      obtain rfl := Option.some.inj hImage
      have := hRuns run hRun
      simp only [Option.getD_some]
      omega
    · exact nomatch hImage

/-- No character has a small s in its upper case. -/
theorem not_mem_upperChar (c : Char) : 's' ∉ upperChar c := by
  intro hMem
  obtain ⟨n, hCode, hChar⟩ := List.mem_map.1 hMem
  refine ofNat_ne ?_ hChar
  unfold upperCodes at hCode
  split at hCode
  · next hAscii =>
    have hAll : ∀ code < 128, (Char.ofNat code).toUpper.toNat ≠ 's'.toNat := by decide
    have hThis := hAll c.toNat hAscii
    rw [Char.ofNat_toNat] at hThis
    exact List.mem_singleton.1 hCode ▸ hThis
  · next hBeyond =>
    split at hCode
    · next codes hCodes =>
      have hAll : ∀ entry ∈ upperExpansions, ∀ code ∈ entry.2, code ≠ 's'.toNat := by decide
      obtain ⟨before, behind, hTable, -⟩ := List.lookup_eq_some_iff.1 hCodes
      have hEntry : (c.toNat, codes) ∈ upperExpansions := by simp [hTable]
      exact hAll _ hEntry n hCode
    · have hAll : ∀ run ∈ upperRuns,
          's'.toNat < run.target ∨ run.target + (run.last - run.first) < 's'.toNat := by
        decide +kernel
      have hSmall : c.toNat ≠ 's'.toNat := fun h => hBeyond (h ▸ by decide)
      exact List.mem_singleton.1 hCode ▸ imageIn_ne hSmall hAll

theorem not_mem_upperCode (code : Nat) : 's' ∉ (upperCode code).map CodeText.codeChar := by
  unfold upperCode
  split
  · rw [CodeText.map_codeChar_toNat]
    exact not_mem_upperChar _
  · next hOther =>
    rw [List.map_singleton, CodeText.codeChar, if_neg hOther]
    decide

theorem capitalized {t : CodeText} (h : IsFree t.shown.toList) :
    IsFree (capitalized t).shown.toList := by
  unfold SvgBuilder.capitalized
  split
  · exact h
  · next code codes hCodes =>
    rw [CodeText.toList_shown, hCodes] at h
    rw [CodeText.toList_shown, List.map_append]
    intro hOpening
    have hRest := infix_of_not_mem_head hOpening (not_mem_upperCode code)
    exact h (hRest.trans (List.suffix_cons _ _).isInfix)

theorem moduleName {fileName : CodeText} (h : IsFree fileName.shown.toList) :
    IsFree (moduleName fileName).shown.toList := by
  refine capitalized ?_
  unfold withoutExtension
  split
  · rw [CodeText.toList_shown] at h ⊢
    rw [List.map_take]
    exact h.of_isInfix (List.take_prefix _ _).isInfix
  · exact h

/-! ## Transform lists -/

theorem not_mem_plainText (x : Number.Double) : 'v' ∉ x.plainText.toList := by
  cases x with
  | finite negative rank =>
    intro hMem
    exact absurd (Number.mem_numeralChars_plainText rfl _ hMem) (by decide)
  | infinite negative => cases negative <;> decide
  | nan => decide

/-- No function of a transform list and no number is written with this letter of the opening. -/
theorem not_mem_listText (ts : List Transform) : 'v' ∉ (Transform.listText ts).toList := by
  have hAll {sep : String} {parts : List String} (hSep : 'v' ∉ sep.toList)
      (hParts : ∀ part ∈ parts, 'v' ∉ part.toList) : 'v' ∉ (Text.joined sep parts).toList := by
    rw [Text.joined, String.toList_intercalate]
    have hEach : ∀ c ∈ List.intercalate sep.toList (parts.map String.toList), c ≠ 'v' := by
      have hSepEach : ∀ c ∈ sep.toList, c ≠ 'v' := fun c hc hEq => hSep (hEq ▸ hc)
      refine forall_mem_intercalate hSepEach fun piece hPiece c hc hEq => ?_
      obtain ⟨part, hPart, rfl⟩ := List.mem_map.1 hPiece
      exact hParts part hPart (hEq ▸ hc)
    exact fun hMem => hEach _ hMem rfl
  refine hAll (by decide) fun part hPart => ?_
  obtain ⟨t, -, rfl⟩ := List.mem_map.1 hPart
  have hName : 'v' ∉ t.functionName.toList := by
    cases t <;> simp [Transform.functionName]
  have hArguments : 'v' ∉ (Text.joined "," (t.arguments.map Number.Double.plainText)).toList := by
    refine hAll (by decide) fun part hPart => ?_
    obtain ⟨x, -, rfl⟩ := List.mem_map.1 hPart
    exact not_mem_plainText x
  simp [Transform.text, hName, hArguments]

theorem listText (ts : List Transform) : IsFree (Transform.listText ts).toList :=
  of_not_mem (by decide) (not_mem_listText ts)

/-! ## Styles -/

theorem declaration? {segment : List Char} (h : IsFree segment) {entry : String × String}
    (hEntry : Style.declaration? segment = some entry) :
    IsFree entry.1.toList ∧ IsFree entry.2.toList := by
  obtain ⟨key, value, hSplit, -, -, rfl⟩ := Style.declaration?_eq_some_iff.1 hEntry
  have hPart (part : List Char) (hPart : part ∈ splitAt ':' segment) :
      IsFree (String.ofList (trim part)).toList := by
    rw [String.toList_ofList]
    exact h.of_isInfix ((isInfix_trim part).trans (infix_of_mem_splitAt hPart))
  exact ⟨hPart key (by simp [hSplit]), hPart value (by simp [hSplit])⟩

/-- The declarations of a free style. -/
theorem read {s : String} (h : IsFree s.toList) :
    ∀ entry ∈ (Style.read s).value, IsFree entry.1.toList ∧ IsFree entry.2.toList := by
  intro entry hEntry
  rw [Style.read, Noted.value_bind, Noted.value_mapM, Noted.value_pure, List.mem_flatten] at hEntry
  obtain ⟨entries, hEntries, hEntry⟩ := hEntry
  obtain ⟨segment, hSegment, rfl⟩ := List.mem_map.1 hEntries
  have hFree : IsFree (trim segment) :=
    h.of_isInfix ((isInfix_trim segment).trans (infix_of_mem_splitAt hSegment))
  unfold Style.readSegment at hEntry
  split at hEntry
  · exact absurd hEntry List.not_mem_nil
  · split at hEntry
    · next found hFound =>
      rw [List.mem_singleton.1 hEntry]
      exact hFree.declaration? hFound
    · exact absurd hEntry List.not_mem_nil

end IsFree

end SvgBuilder
