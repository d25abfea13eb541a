import SvgBuilder.Comparison.Difference
import SvgBuilder.Proofs.Comparison.Closed
import SvgBuilder.Proofs.Comparison.Finding
import SvgBuilder.Proofs.Text.Blank

/-!
# What the patterns cover

A pattern passes over what it has found.  A name of a tag or of an attribute and a call of an
element hold no blank; in a statement only the sign of the assignment follows on blanks; and a call
of the method for other attributes is covered up to the quote behind the name.

## Main results

* `nameAt?_append`: a name is read up to what it does not go on with.
* `covers_elementPattern`, `covers_markupName?`, `covers_statementName?`, `covers_quotedName?`: what
  is covered where something is found.
-/

namespace SvgBuilder.Comparison

open SvgBuilder.Text SvgBuilder.Source

/-! ## Names -/

/-- Whether a text is a name all of which goes on in a given way. -/
def isNameOf (goesOn : Char → Bool) : List Char → Bool
  | [] => false
  | c :: s => isInitial c && s.all goesOn

/-- Whether a text is a name of a member of the builder. -/
def isMemberName (s : List Char) : Bool := isNameOf isMemberChar s

theorem not_isAttributeChar_of_isBlank {c : Char} (h : isBlank c = true) :
    isAttributeChar c = false := by
  have hPoint : c ≠ '.' := fun hc => absurd (hc ▸ h) (by decide)
  have hDash : c ≠ '-' := fun hc => absurd (hc ▸ h) (by decide)
  have hColon : c ≠ ':' := fun hc => absurd (hc ▸ h) (by decide)
  simp [isAttributeChar, isTagChar, not_isWord_of_isBlank h, hPoint, hDash, hColon]

theorem isAttributeChar_of_isTagChar {c : Char} (h : isTagChar c = true) :
    isAttributeChar c = true := by
  simp [isAttributeChar, h]

theorem isAttributeChar_of_isMemberChar {c : Char} (h : isMemberChar c = true) :
    isAttributeChar c = true := by
  rcases Bool.or_eq_true_iff.1 h with h | h
  · simp [isAttributeChar, isTagChar, h]
  · simp [isAttributeChar, isTagChar, h]

theorem isAttributeChar_of_isInitial {c : Char} (h : isInitial c = true) :
    isAttributeChar c = true := by
  have hWord : isWord c = true := by
    rcases Bool.or_eq_true_iff.1 h with hAlpha | hLine
    · have hAscii : c.toNat < 128 := by
        have := hAlpha
        unfold Char.isAlpha Char.isUpper Char.isLower at this
        simp only [Bool.or_eq_true, Bool.and_eq_true, decide_eq_true_eq, ge_iff_le,
          UInt32.le_iff_toNat_le] at this
        have hUpper : 'Z'.val.toNat < 128 := by decide
        have hLower : 'z'.val.toNat < 128 := by decide
        have hCode : c.toNat = c.val.toNat := rfl
        omega
      exact isWord_of_isAlphanum (by simp [Char.isAlphanum, hAlpha]) hAscii
    · rw [of_decide_eq_true hLine]
      decide
  simp [isAttributeChar, isTagChar, hWord]

theorem isAttributeChar_of_isMemberName {name : List Char} (h : isMemberName name = true) :
    ∀ c ∈ name, isAttributeChar c = true := by
  cases name with
  | nil => exact nomatch h
  | cons c name =>
    obtain ⟨hc, hName⟩ := Bool.and_eq_true_iff.1 h
    intro d hd
    rcases List.mem_cons.1 hd with rfl | hd
    · exact isAttributeChar_of_isInitial hc
    · exact isAttributeChar_of_isMemberChar (List.all_eq_true.1 hName d hd)

/-- A name is read up to what it does not go on with. -/
theorem nameAt?_append {goesOn : Char → Bool} {name rest : List Char}
    (h : isNameOf goesOn name = true) (hRest : ∀ c ∈ rest.head?, goesOn c = false) :
    nameAt? goesOn (name ++ rest) = some (name, rest) := by
  cases name with
  | nil => exact nomatch h
  | cons c name =>
    obtain ⟨hc, hName⟩ := Bool.and_eq_true_iff.1 h
    have hAll : ∀ d ∈ name, goesOn d = true := List.all_eq_true.1 hName
    have hTake : rest.takeWhile goesOn = [] := by
      cases rest with
      | nil => rfl
      | cons d rest => exact List.takeWhile_cons_of_neg (by simp [hRest d rfl])
    have hDrop : rest.dropWhile goesOn = rest := by
      cases rest with
      | nil => rfl
      | cons d rest => exact List.dropWhile_cons_of_neg (by simp [hRest d rfl])
    rw [List.cons_append, nameAt?, if_pos hc, List.takeWhile_append_of_pos hAll,
      List.dropWhile_append_of_pos hAll, hTake, hDrop, List.append_nil]

theorem nameAt?_eq_some {goesOn : Char → Bool} {s name rest : List Char}
    (h : nameAt? goesOn s = some (name, rest)) :
    s = name ++ rest ∧ ∀ c ∈ name, isInitial c = true ∨ goesOn c = true := by
  cases s with
  | nil => cases h
  | cons c s =>
    rw [nameAt?] at h
    split at h
    · next hc =>
      obtain ⟨rfl, rfl⟩ := Prod.mk.inj (Option.some.inj h)
      refine ⟨by rw [List.cons_append, List.takeWhile_append_dropWhile], fun d hd => ?_⟩
      rcases List.mem_cons.1 hd with rfl | hd
      · exact .inl hc
      · exact .inr (List.all_eq_true.1 List.all_takeWhile d hd)
    · cases h

/-! ## What is found covers -/

/-- Whether only blanks and colons follow on blanks in a text. -/
def IsRun (s : List Char) : Prop :=
  s.IsChain fun c d => isBlank c = true → isBlank d = true ∨ d = ':'

/-- Whether all that a pattern finds covers texts with a property. -/
def Covers (pattern : Pattern) (P : List Char → Prop) : Prop :=
  ∀ before s f, pattern before s = some f → ∃ x rest, s = x ++ rest ∧ f.width = x.length ∧ P x

theorem Covers.orElse {p q : Pattern} {P : List Char → Prop} (hp : Covers p P) (hq : Covers q P) :
    Covers (fun before s => (p before s).orElse fun _ => q before s) P := by
  intro before s f h
  dsimp only at h
  cases hFirst : p before s with
  | some g =>
    rw [hFirst] at h
    obtain rfl := Option.some.inj h
    exact hp before s g hFirst
  | none =>
    rw [hFirst] at h
    exact hq before s f h

theorem isRun_of_not_isBlank {s : List Char} (h : ∀ c ∈ s, isBlank c = false) : IsRun s := by
  induction s with
  | nil => exact .nil
  | cons c s ih =>
    cases s with
    | nil => exact .singleton c
    | cons d s =>
      refine .cons_cons (fun hc => ?_) (ih fun e he => h e (List.mem_cons_of_mem _ he))
      rw [h c (by simp)] at hc
      exact nomatch hc

theorem not_isBlank_of_isAttributeChar {c : Char} (h : isAttributeChar c = true) :
    isBlank c = false := by
  by_contra hBlank
  rw [Bool.not_eq_false] at hBlank
  rw [not_isAttributeChar_of_isBlank hBlank] at h
  exact nomatch h

/-- Names hold no blank. -/
theorem not_isBlank_of_nameAt? {goesOn : Char → Bool} {s name rest : List Char}
    (hGoesOn : ∀ c, goesOn c = true → isAttributeChar c = true)
    (h : nameAt? goesOn s = some (name, rest)) : ∀ c ∈ name, isBlank c = false := by
  intro c hc
  rcases (nameAt?_eq_some h).2 c hc with hc | hc
  · exact not_isBlank_of_isAttributeChar (isAttributeChar_of_isInitial hc)
  · exact not_isBlank_of_isAttributeChar (hGoesOn c hc)

theorem covers_tagName? : Covers tagName? IsRun := by
  intro before s f h
  unfold tagName? at h
  split at h
  · next label t hLabel =>
    obtain ⟨u, hu, hLabel⟩ := Option.bind_eq_some_iff.1 hLabel
    split at h
    · next name rest hName =>
      split at h
      · obtain rfl := Option.some.inj h
        have hFirst := not_isBlank_of_nameAt? (fun _ => isAttributeChar_of_isTagChar) hLabel
        have hSecond := not_isBlank_of_nameAt? (fun _ => isAttributeChar_of_isTagChar) hName
        refine ⟨'<' :: label ++ ':' :: name, rest, ?_, by simp; omega, ?_⟩
        · rw [behind?_eq_some_iff.1 hu, (nameAt?_eq_some hLabel).1, (nameAt?_eq_some hName).1]
          simp
        · refine isRun_of_not_isBlank fun c hc => ?_
          simp only [List.cons_append, List.mem_cons, List.mem_append] at hc
          rcases hc with rfl | hc | rfl | hc
          · decide
          · exact hFirst c hc
          · decide
          · exact hSecond c hc
      · exact nomatch h
    · exact nomatch h
  · next name rest _ hName =>
    obtain ⟨u, hu, hName⟩ := Option.bind_eq_some_iff.1 hName
    split at h
    · obtain rfl := Option.some.inj h
      have hFirst := not_isBlank_of_nameAt? (fun _ => isAttributeChar_of_isTagChar) hName
      refine ⟨'<' :: name, rest, ?_, rfl, ?_⟩
      · rw [behind?_eq_some_iff.1 hu, (nameAt?_eq_some hName).1]
        simp
      · refine isRun_of_not_isBlank fun c hc => ?_
        rcases List.mem_cons.1 hc with rfl | hc
        · decide
        · exact hFirst c hc
    · exact nomatch h
  · exact nomatch h

theorem behindBuilder?_eq_some {before : Option Char} {s t : List Char}
    (h : behindBuilder? before s = some t) : s = "svg.".toList ++ t := by
  unfold behindBuilder? at h
  split at h
  · exact behind?_eq_some_iff.1 h
  · exact nomatch h

theorem not_isBlank_of_mem_builder {c : Char} (h : c ∈ "svg.".toList) : isBlank c = false := by
  have hAll : "svg.".toList.all (!isBlank ·) = true := by decide
  simpa using List.all_eq_true.1 hAll c h

theorem covers_callName? : Covers callName? IsRun := by
  intro before s f h
  unfold callName? at h
  split at h
  · exact nomatch h
  · next t hBuilder =>
    split at h
    · exact nomatch h
    · split at h
      · next name rest hName =>
        obtain rfl := Option.some.inj h
        have hEach := not_isBlank_of_nameAt? (fun _ => isAttributeChar_of_isMemberChar) hName
        refine ⟨"svg.".toList ++ name ++ ['('], rest, ?_, by simp, ?_⟩
        · rw [behindBuilder?_eq_some hBuilder, (nameAt?_eq_some hName).1]
          simp
        · refine isRun_of_not_isBlank fun c hc => ?_
          rcases List.mem_append.1 hc with hc | hc
          · rcases List.mem_append.1 hc with hc | hc
            · exact not_isBlank_of_mem_builder hc
            · exact hEach c hc
          · rw [List.mem_singleton.1 hc]
            decide
      · exact nomatch h

theorem covers_elementPattern : Covers elementPattern IsRun :=
  covers_tagName?.orElse covers_callName?

theorem covers_markupName? : Covers markupName? IsRun := by
  intro before s f h
  unfold markupName? at h
  split at h
  · exact nomatch h
  · split at h
    · next name quote rest hName =>
      split at h
      · next hQuote =>
        obtain rfl := Option.some.inj h
        have hEach := not_isBlank_of_nameAt? (fun _ => id) hName
        refine ⟨name ++ ['=', quote], rest, ?_, by simp, ?_⟩
        · rw [(nameAt?_eq_some hName).1]
          simp
        · refine isRun_of_not_isBlank fun c hc => ?_
          rcases List.mem_append.1 hc with hc | hc
          · exact hEach c hc
          · simp only [List.mem_cons, List.not_mem_nil, or_false] at hc
            rcases hc with rfl | rfl
            · decide
            · rcases hQuote with rfl | rfl <;> decide
      · exact nomatch h
    · exact nomatch h

/-- A word, blanks and the sign of an assignment. -/
theorem isRun_assignment {word gap : List Char} (hWord : ∀ c ∈ word, isBlank c = false)
    (hGap : ∀ c ∈ gap, isBlank c = true) : IsRun (word ++ gap ++ [':', '=']) := by
  have hSign : IsRun (gap ++ [':', '=']) := by
    induction gap with
    | nil => exact .cons_cons (fun hc => absurd hc (by decide)) (.singleton _)
    | cons c gap ih =>
      have hRest := ih fun d hd => hGap d (List.mem_cons_of_mem _ hd)
      cases gap with
      | nil => exact .cons_cons (fun _ => .inr rfl) hRest
      | cons d gap => exact .cons_cons (fun _ => .inl (hGap d (by simp))) hRest
  rw [List.append_assoc]
  induction word with
  | nil => exact hSign
  | cons c word ih =>
    have hRest := ih fun d hd => hWord d (List.mem_cons_of_mem _ hd)
    have hc : isBlank c = false := hWord c (by simp)
    refine List.isChain_cons.2 ⟨fun d _ hBlank => ?_, hRest⟩
    rw [hc] at hBlank
    exact nomatch hBlank

theorem covers_statementName? : Covers statementName? IsRun := by
  intro before s f h
  unfold statementName? at h
  split at h
  · exact nomatch h
  · next name rest hName =>
    obtain ⟨t, hBuilder, hName⟩ := Option.bind_eq_some_iff.1 hName
    split at h
    · next tail hSign =>
      obtain rfl := Option.some.inj h
      have hEach := not_isBlank_of_nameAt? (fun _ => isAttributeChar_of_isMemberChar) hName
      have hRest : rest = rest.takeWhile isBlank ++ ':' :: '=' :: tail := by
        rw [← hSign, List.takeWhile_append_dropWhile]
      have hText : s = "svg.".toList ++ (name ++ rest) := by
        rw [behindBuilder?_eq_some hBuilder, (nameAt?_eq_some hName).1]
      refine ⟨"svg.".toList ++ name ++ rest.takeWhile isBlank ++ [':', '='], tail, ?_, ?_, ?_⟩
      · calc s = "svg.".toList ++ (name ++ (rest.takeWhile isBlank ++ ':' :: '=' :: tail)) := by
              rw [← hRest, hText]
          _ = _ := by simp only [List.append_assoc, List.cons_append, List.nil_append]
      · simp only [List.length_append, List.length_cons, List.length_nil]
        have hBuilderLength : "svg.".toList.length = 4 := by decide
        omega
      · have hGap : ∀ c ∈ rest.takeWhile isBlank, isBlank c = true :=
          List.all_eq_true.1 List.all_takeWhile
        refine isRun_assignment (fun c hc => ?_) hGap
        rcases List.mem_append.1 hc with hc | hc
        · exact not_isBlank_of_mem_builder hc
        · exact hEach c hc
    · exact nomatch h

theorem not_mem_of_upTo {c : Char} {s name rest : List Char} (h : upTo [c] s = some (name, rest)) :
    c ∉ name := by
  induction s generalizing name with
  | nil => exact nomatch h
  | cons d s ih =>
    rw [upTo] at h
    split at h
    · obtain ⟨rfl, -⟩ := Prod.mk.inj (Option.some.inj h)
      exact List.not_mem_nil
    · next hStop =>
      obtain ⟨⟨name', rest'⟩, hRest, hPair⟩ := Option.map_eq_some_iff.1 h
      obtain ⟨rfl, rfl⟩ := Prod.mk.inj hPair
      have hc : c ≠ d := by simpa [List.isPrefixOf] using hStop
      exact fun hMem => (List.mem_cons.1 hMem).elim hc (ih hRest)

/-- What is found between quotes holds none. -/
theorem covers_quotedName? : Covers quotedName? fun x =>
    ∃ name, x = quotedOpening ++ name ++ ['\x22'] ∧ '\x22' ∉ name := by
  intro before s f h
  unfold quotedName? at h
  split at h
  · split at h
    · next name rest hName =>
      obtain ⟨t, hOpening, hName⟩ := Option.bind_eq_some_iff.1 hName
      split at h
      · exact nomatch h
      · obtain rfl := Option.some.inj h
        have hText : s = quotedOpening ++ t := behind?_eq_some_iff.1 hOpening
        have hLength : quotedOpening.length = 9 := by decide
        refine ⟨quotedOpening ++ name ++ ['\x22'], rest, ?_, ?_, name, rfl, not_mem_of_upTo hName⟩
        · rw [hText, upTo_append hName]
          simp only [List.append_assoc]
        · simp only [List.length_append, List.length_cons, List.length_nil]
          omega
    · exact nomatch h
  · exact nomatch h

end SvgBuilder.Comparison
