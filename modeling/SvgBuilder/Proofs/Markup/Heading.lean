import SvgBuilder.Proofs.Markup.Expansion
import SvgBuilder.Proofs.Markup.Outcome

/-!
# Documents behind their declarations

The declaration at the beginning of a document names its encoding.  It consists of characters that
every document may hold and ends at the first question mark behind its opening.  So two texts that
only differ in the encoding that they name are read alike.

## Main results

* `readDocument_eq`: a document is read by its text.
* `ensures_readHeading?`: what a declaration consists of.
* `readCharacters_alike`: two texts that are alike behind their declarations.
-/

namespace SvgBuilder.Markup

open SvgBuilder.Text

/-! ## The text of a document -/

/-- The encoding of a document, and its bytes without the mark. -/
def encodingOf (bytes : List UInt8) : Except Fault (Encoding × List UInt8) :=
  match Encoding.ofMark? bytes with
  | some marked => .ok marked
  | none => (declaredEncoding bytes).map fun encoding => (encoding, bytes)

/-- The text that bytes hold in an encoding. -/
def textIn (r : Encoding × List UInt8) : Except Fault (List Char) :=
  match r.1.decode? r.2 with
  | some s => .ok s
  | none => .error .encoding

/-- The text that the bytes of a document hold. -/
def textOf (bytes : List UInt8) : Except Fault (List Char) := encodingOf bytes >>= textIn

theorem readDocument_eq (bytes : List UInt8) :
    readDocument bytes = textOf bytes >>= readCharacters := by
  have hText : ∀ r : Encoding × List UInt8, textIn r >>= readCharacters =
      match r.1.decode? r.2 with
      | some s => readCharacters s
      | none => throw .encoding := by
    intro r
    rw [textIn]
    cases r.1.decode? r.2 <;> rfl
  rw [textOf, bind_assoc, funext hText, readDocument, encodingOf]
  cases Encoding.ofMark? bytes with
  | some marked => rfl
  | none => cases declaredEncoding bytes <;> rfl

/-! ## The characters of a declaration -/

/-- Whether a character may stand in a declaration between its opening and its end. -/
def isHeadingChar (c : Char) : Bool := isChar c && c ≠ '?'

/-- Whether a text goes on behind characters that may stand in a declaration. -/
def Passes (s t : List Char) : Prop := ∃ p, s = p ++ t ∧ p.all isHeadingChar = true

namespace Passes

variable {s t u : List Char}

theorem refl (s : List Char) : Passes s s := ⟨[], rfl, rfl⟩

theorem trans (h : Passes s t) (h' : Passes t u) : Passes s u := by
  obtain ⟨p, rfl, hp⟩ := h
  obtain ⟨q, rfl, hq⟩ := h'
  exact ⟨p ++ q, (List.append_assoc _ _ _).symm, by simp [hp, hq]⟩

theorem append {p : List Char} (h : p.all isHeadingChar = true) (t : List Char) :
    Passes (p ++ t) t := ⟨p, rfl, h⟩

end Passes

theorem isHeadingChar_of_isSpace {c : Char} (h : isSpace c = true) : isHeadingChar c = true := by
  simp only [isSpace, Bool.or_eq_true, decide_eq_true_eq] at h
  rcases h with ((rfl | rfl) | rfl) | rfl <;> decide

theorem passes_skipSpace (s : List Char) : Passes s (skipSpace s) := by
  refine ⟨s.takeWhile isSpace, List.takeWhile_append_dropWhile.symm, List.all_eq_true.2 ?_⟩
  intro c hc
  exact isHeadingChar_of_isSpace (List.all_eq_true.1 List.all_takeWhile c hc)

theorem ensures_requireChar (fault : Fault) (c : Char) (s : List Char) :
    Ensures (requireChar fault c s) fun t => s = c :: t := by
  cases s with
  | nil => exact Ensures.error _ _
  | cons d s =>
    rw [requireChar]
    split
    · next h => exact Ensures.ok (by rw [h])
    · exact Ensures.error _ _

theorem ensures_readQuoted (fault : Fault) (s : List Char) :
    Ensures (readQuoted fault s) fun r =>
      ∃ quote, (quote = '\x22' ∨ quote = '\x27') ∧ s = quote :: (r.1 ++ quote :: r.2) := by
  cases s with
  | nil => exact Ensures.error _ _
  | cons c s =>
    rw [readQuoted]
    split
    · next hQuote =>
      cases hStop : upTo [c] s with
      | none => exact Ensures.error _ _
      | some r => exact Ensures.ok ⟨c, hQuote, by rw [upTo_append hStop]; simp⟩
    · exact Ensures.error _ _

/-- An item of a declaration whose value may stand there. -/
theorem ensures_readItem (s : List Char) :
    Ensures (readItem s) fun r => r.1.all isHeadingChar = true → Passes s r.2 := by
  refine (ensures_requireChar _ _ _).bind fun t ht => ?_
  refine (ensures_readQuoted _ _).imp fun r hr hValue => ?_
  obtain ⟨quote, hQuote, hText⟩ := hr
  have hAround : isHeadingChar quote = true := by
    rcases hQuote with rfl | rfl <;> decide
  have hItem : Passes (quote :: (r.1 ++ quote :: r.2)) r.2 :=
    ⟨quote :: (r.1 ++ [quote]), by simp, by simp [hAround, hValue]⟩
  have hEquals : Passes ('=' :: t) t := Passes.append (p := ['=']) rfl t
  rw [← hText] at hItem
  rw [← ht] at hEquals
  exact ((passes_skipSpace s).trans hEquals).trans ((passes_skipSpace t).trans hItem)

/-- An optional item of a declaration whose value may stand there. -/
theorem ensures_readOptional {keyword : String} (hKeyword : keyword.toList.all isHeadingChar = true)
    (s : List Char) :
    Ensures (readOptional keyword s) fun r =>
      (∀ value, r.1 = some value → value.all isHeadingChar = true) → Passes s r.2 := by
  unfold readOptional
  cases hBehind : behindKeyword? keyword s with
  | none => exact Ensures.ok fun _ => Passes.refl s
  | some t =>
    refine (ensures_readItem t).bind fun r hr => Ensures.pure fun hValue => ?_
    refine Passes.trans ?_ (hr (hValue _ rfl))
    cases s with
    | nil => exact nomatch hBehind
    | cons c s =>
      rw [behindKeyword?] at hBehind
      split at hBehind
      · refine (passes_skipSpace _).trans ?_
        rw [behind?_eq_some_iff.1 hBehind]
        exact Passes.append hKeyword t
      · exact nomatch hBehind

theorem isHeadingChar_of_isAlphanum {c : Char} (h : c.isAlphanum = true) :
    isHeadingChar c = true := by
  have hCode : 48 ≤ c.toNat ∧ c.toNat ≤ 122 ∧ c.toNat ≠ 63 := by
    unfold Char.isAlphanum Char.isAlpha Char.isUpper Char.isLower Char.isDigit at h
    simp only [ge_iff_le, Bool.or_eq_true, Bool.and_eq_true, decide_eq_true_eq,
      UInt32.le_iff_toNat_le] at h
    have hUpper : 'A'.val.toNat = 65 ∧ 'Z'.val.toNat = 90 := by decide
    have hLower : 'a'.val.toNat = 97 ∧ 'z'.val.toNat = 122 := by decide
    have hDigit : '0'.val.toNat = 48 ∧ '9'.val.toNat = 57 := by decide
    have hVal : c.toNat = c.val.toNat := rfl
    omega
  have hMark : c ≠ '?' := by
    rintro rfl
    exact hCode.2.2 rfl
  simp only [isHeadingChar, isChar, Bool.and_eq_true, Bool.or_eq_true, decide_eq_true_eq]
  exact ⟨by omega, by simpa using hMark⟩

theorem all_isHeadingChar_of_isVersion {s : List Char} (h : isVersion s = true) :
    s.all isHeadingChar = true := by
  unfold isVersion at h
  split at h
  · next t =>
    have hDigits : t.all isHeadingChar = true := by
      rw [List.all_eq_true] at h ⊢
      intro c hc
      exact isHeadingChar_of_isAlphanum (by simp [Char.isAlphanum, h c hc])
    rw [List.all_cons, List.all_cons, hDigits]
    decide
  · exact nomatch h

theorem all_isHeadingChar_of_isEncodingName {s : List Char} (h : isEncodingName s = true) :
    s.all isHeadingChar = true := by
  cases s with
  | nil => exact nomatch h
  | cons c s =>
    obtain ⟨hFirst, hRest⟩ := Bool.and_eq_true_iff.1 h
    rw [List.all_cons, isHeadingChar_of_isAlphanum (by simp [Char.isAlphanum, hFirst])]
    rw [List.all_eq_true] at hRest
    refine List.all_eq_true.2 fun d hd => ?_
    have hChar := hRest d hd
    simp only [Bool.or_eq_true, decide_eq_true_eq] at hChar
    rcases hChar with ((hChar | rfl) | rfl) | rfl
    · exact isHeadingChar_of_isAlphanum hChar
    all_goals decide

theorem all_isHeadingChar_of_standaloneOf {s : List Char} {standalone : Bool}
    (h : standaloneOf (some s) = .ok standalone) : s.all isHeadingChar = true := by
  rw [standaloneOf] at h
  split at h
  · next hYes =>
    rw [hYes]
    decide
  · split at h
    · next hNo =>
      rw [hNo]
      decide
    · exact nomatch h

/-- What is left behind a declaration: its opening and its end are fixed. -/
inductive Declares : List Char → List Char → Prop
  | without (s : List Char) : Declares s s
  | heading {p : List Char} (h : p.all isHeadingChar = true) (s : List Char) :
    Declares ("<?xml".toList ++ p ++ "?>".toList ++ s) s

theorem ensures_readHeading (s : List Char) :
    Ensures (readHeading s) fun r => Passes s ("?>".toList ++ r.2) := by
  unfold readHeading
  refine (ensures_readOptional (by decide) s).bind fun version hVersion => ?_
  dsimp only
  split
  · exact Ensures.error _ _
  next hKnown =>
  refine (ensures_readOptional (by decide) version.2).bind fun encoding hEncoding => ?_
  split
  · exact Ensures.error _ _
  next hNamed =>
  refine (ensures_readOptional (by decide) encoding.2).bind fun standalone hStandalone => ?_
  refine Ensures.bind (P := fun _ => ∃ b, standaloneOf standalone.1 = .ok b) ?_ fun _ hStated => ?_
  · exact fun b hb => ⟨b, hb⟩
  split
  · next rest hRest =>
    refine Ensures.pure ?_
    rw [← behind?_eq_some_iff.1 hRest]
    refine ((hVersion ?_).trans ((hEncoding ?_).trans (hStandalone ?_))).trans (passes_skipSpace _)
    · intro value hValue
      rw [hValue] at hKnown
      exact all_isHeadingChar_of_isVersion (by simpa using hKnown)
    · intro value hValue
      rw [hValue] at hNamed
      exact all_isHeadingChar_of_isEncodingName (by simpa using hNamed)
    · intro value hValue
      obtain ⟨stated, hStated⟩ := hStated
      rw [hValue] at hStated
      exact all_isHeadingChar_of_standaloneOf hStated
  · exact Ensures.error _ _

theorem ensures_readHeading? (s : List Char) :
    Ensures (readHeading? s) fun r => Declares s r.2 := by
  unfold readHeading?
  cases hOpening : behindHeadingOpening? s with
  | none => exact Ensures.ok (.without s)
  | some t =>
    refine (ensures_readHeading t).imp fun r hr => ?_
    obtain ⟨p, rfl, hp⟩ := hr
    rw [behind?_eq_some_iff.1 (Option.filter_eq_some_iff.1 hOpening).1]
    have hText := Declares.heading hp r.2
    rwa [List.append_assoc, List.append_assoc] at hText

/-! ## Texts with another declaration -/

theorem Declares.all_isChar {s t : List Char} (h : Declares s t) : s.all isChar = t.all isChar := by
  cases h with
  | without => rfl
  | @heading p h =>
    have hChars : p.all isChar = true := by
      rw [List.all_eq_true] at h ⊢
      exact fun c hc => (Bool.and_eq_true_iff.1 (h c hc)).1
    have hOpening : "<?xml".toList.all isChar = true ∧ "?>".toList.all isChar = true := by decide
    simp only [List.all_append, hChars, hOpening, Bool.and_self, Bool.true_and]

/-- Whether two texts are the same behind their declarations, which only differ in the encoding. -/
inductive SameBehind (s t : List Char) : Prop
  | intro {h₁ h₂ : Heading} {rest : List Char} (left : readHeading? s = .ok (h₁, rest))
    (right : readHeading? t = .ok (h₂, rest)) (version : h₁.version = h₂.version)
    (standalone : h₁.standalone = h₂.standalone)

theorem readCharacters_of_readHeading? {s rest : List Char} {heading : Heading}
    (h : readHeading? s = .ok (heading, rest)) :
    readCharacters s =
      if rest.all isChar then accept ((readBehind heading rest).run (.start (textSize s)))
      else .error .character := by
  have hRun : ∀ p, (readAll s).run p = (readBehind heading rest).run p := by
    intro p
    rw [readAll_eq, h]
    rfl
  rw [readCharacters, (ensures_readHeading? s _ h).all_isChar, hRun]

/-- Two texts that only differ in the encoding that they name are read alike, unless what the
references stand for is bounded differently and one of the bounds is exceeded. -/
theorem readCharacters_alike {s t : List Char} (h : SameBehind s t) :
    readCharacters s = readCharacters t ∨
      allowedExpansion (textSize s) ≠ allowedExpansion (textSize t) ∧
        (readCharacters s = .error .expansion ∨ readCharacters t = .error .expansion) := by
  obtain ⟨left, right, version, standalone⟩ := h
  rw [readCharacters_of_readHeading? left, readCharacters_of_readHeading? right,
    readBehind_congr version standalone]
  split
  · exact accept_readBehind _ _ _ _
  · exact .inl rfl

end SvgBuilder.Markup
