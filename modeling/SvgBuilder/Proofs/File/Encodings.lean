import SvgBuilder.Proofs.Comparison.Prolog
import SvgBuilder.Proofs.File.Conversion

/-!
# Encodings of files

The parser reads a file in the encoding that it shows or declares; the comparison of names reads the
same bytes as UTF-8, with a replacement character for every ill-formed sequence.  So the encoding of
a document does not matter to the module, but the comparison only looks at the same text where the
bytes are the text in UTF-8.  A refusal is the same, too, but for the words of the parser, which may
point at the bytes.

## Main results

* `convertFile_said`: what a conversion says, as a function of the content of the file.
* `isSeen_utf8`, `isSeen_ascii`: where the comparison looks at the text of the document.
* `convertFile_encodings`: a document in two encodings.
-/

namespace SvgBuilder

open SvgBuilder.Markup SvgBuilder.Number SvgBuilder.Text SvgBuilder.Converting

/-! ## What a conversion says -/

/-- What a conversion says of a document. -/
structure Verdict where
  code : String
  warnings : List String
  differences : List String
  isValid : Bool
  deriving DecidableEq, Repr

/-- What is said of a document by a module that was made with warnings and that misses names. -/
def Verdict.of (code : String) (warnings differences : List String) : Verdict :=
  ⟨code, warnings ++ differences, differences, differences.isEmpty⟩

/-- What the result of a conversion says. -/
def Conversion.said (c : Conversion) : Verdict :=
  ⟨c.code, Note.texts .warning c.notes, c.differences, c.isValid⟩

/-- A fault without the words of the parser. -/
def ConversionFault.unworded : ConversionFault → ConversionFault
  | .document fault _ => .document fault ""
  | fault => fault

/-- What a conversion says, or why it ends without a result. -/
def said : Except Failed Conversion → Except ConversionFault Verdict
  | .ok c => .ok c.said
  | .error failed => .error failed.fault.unworded

/-- The module of a document and the notes made for it, if it can be written in words. -/
def moduleFor (settings : Settings) (name : CodeText) (content : List UInt8) :
    Except ConversionFault (Noted String) :=
  match readDocument content with
  | .error fault => .error (.document fault "")
  | .ok root =>
    if (writtenInteger? settings.defaultSize).isNone then .error .longSize
    else .ok (sourceModule settings name root)

/-- What is said of the content of a file, of which the module goes to a place. -/
def verdict (settings : Settings) (name : CodeText) (target : Option Path) (content : List UInt8) :
    Except ConversionFault Verdict :=
  match moduleFor settings name content with
  | .error fault => .error fault
  | .ok code =>
    match target.bind nameFault? with
    | some fault => .error fault.unworded
    | none => .ok (.of code.value (Note.texts .warning code.notes)
        (differencesFor settings (String.ofList (Utf8.decodeLossy content)) code.value))

/-- Whether a file can be converted, and has a content. -/
structure IsSource (store : Store) (input : Path) (output : Option Path) (content : List UInt8) :
    Prop where
  paths : pathFault? store input output = none
  content : store.read input = .ok content

section Steps

variable {α β : Type}

theorem outcome_get (f : Session → Converting β) (s : Session) :
    (MonadState.get >>= f).outcome s = (f s).outcome s := rfl

theorem outcome_passed (f : Unit → Converting β) (s : Session) :
    (stopAt none >>= f).outcome s = (f ()).outcome s := rfl

theorem outcome_keep (x : Noted α) (f : α → Converting β) (s : Session) :
    (keep x >>= f).outcome s = (f x.value).outcome { s with notes := s.notes ++ x.notes } := rfl

end Steps

/-- A module of characters is written without a warning, or an error is noted. -/
theorem fillFile_meets (path : Path) (l : Location) (content : List UInt8) (code : String)
    (s : Session) :
    Meets s (fillFile path l ⟨content, code, none⟩)
      (fun _ t => Note.texts .warning t.notes = Note.texts .warning s.notes) fun _ _ => False := by
  refine Meets.get (Meets.setStore ?_)
  have hPassed {t : Session} : Meets t (stopAt none) (fun _ u => u = t) fun _ _ => False :=
    Meets.stopAt (fun _ => rfl) nofun
  refine hPassed.bind fun _ t ht => Meets.get ?_
  subst ht
  generalize Store.fill _ l (Utf8.encode code.toList) = filled
  refine Meets.setStore ?_
  cases filled.2 with
  | none => exact Meets.keep (by simp [Note.texts, Noted.note])
  | some fault => exact Meets.keep (by simp [Note.texts, Noted.note])

/-- A module of characters is put out without a warning, if its place has a name that a file can
have. -/
theorem deliver_outcome (target : Option Path) (content : List UInt8) (code : String) (s : Session) :
    ∃ t, Note.texts .warning t.notes = Note.texts .warning s.notes ∧
      (deliver target ⟨content, code, none⟩).outcome s =
        (match target.bind nameFault? with
          | some fault => .error fault
          | none => .ok (), t) := by
  cases target with
  | none => exact ⟨{ s with effect.printed := s.effect.printed ++ code }, rfl, rfl⟩
  | some path =>
    rw [Option.bind_some, deliver]
    cases nameFault? path with
    | some fault => exact ⟨s, rfl, rfl⟩
    | none =>
      rw [outcome_passed, outcome_get]
      cases s.effect.store.opened path with
      | error fault => exact ⟨_, by simp [Note.texts, Noted.note], rfl⟩
      | ok l =>
        obtain ⟨_, t, hWarnings, hOutcome⟩ := (fillFile_meets path l content code s).exists_ok
        exact ⟨t, hWarnings, hOutcome⟩

section Said

variable {settings : Settings} {before : Effect} {input : Path} {output : Option Path}
  {content : List UInt8}
  (hHeader : (headerText settings).isWhole = true) (hName : input.name.isWhole = true)
  (h : IsSource before.store input output content)

include hHeader hName h

/-- All that comes before the module is put out is a function of the content of the file. -/
theorem prepare_outcome :
    match moduleFor settings input.name content with
    | .error fault => ∃ fault' t, fault'.unworded = fault ∧
      (prepare settings input output).outcome ⟨before, []⟩ = (.error fault', t)
    | .ok code => ∃ t, Note.texts .warning t.notes = Note.texts .warning code.notes ∧
      (prepare settings input output).outcome ⟨before, []⟩ =
        (.ok ⟨content, code.value, none⟩, t) := by
  have hSource : ∀ notes, (readSource input).outcome ⟨before, notes⟩ =
      (.ok content, ⟨before, notes⟩) := by
    intro notes
    rw [readSource, outcome_get, h.content]
    rfl
  have hPrepare : (prepare settings input output).outcome ⟨before, []⟩ =
      (do
        let root ← parseSource content
        let code ← keep (sourceModule settings input.name root)
        stopAt (if (writtenInteger? settings.defaultSize).isNone then some .longSize else none)
        pure (⟨content, code, loneIn settings input.name root⟩ : Prepared)).outcome
        ⟨before, [⟨.info, "Converting file: " ++ input.text⟩]⟩ := by
    rw [prepare, outcome_get, h.paths, outcome_passed, outcome_keep, outcome_bind, hSource]
    rfl
  rw [hPrepare, moduleFor, outcome_bind, parseSource]
  cases readDocument content with
  | error fault => exact ⟨_, _, rfl, rfl⟩
  | ok root =>
    simp only [loneIn_eq_none hHeader hName]
    by_cases hLong : (writtenInteger? settings.defaultSize).isNone
    · simp only [if_pos hLong]
      exact ⟨_, _, rfl, rfl⟩
    · simp only [if_neg hLong]
      exact ⟨_, rfl, rfl⟩

/-- What a conversion says is a function of the name and the content of the file. -/
theorem convertFile_said :
    said (convertFile settings before input output).1 =
      verdict settings input.name (output.map (outputPath input · settings.extension)) content := by
  have hPrepare := prepare_outcome hHeader hName h
  rw [verdict]
  unfold convertFile converting
  rw [outcome_bind]
  cases hModule : moduleFor settings input.name content with
  | error fault =>
    rw [hModule] at hPrepare
    obtain ⟨fault', t, rfl, hOutcome⟩ := hPrepare
    rw [hOutcome]
    rfl
  | ok code =>
    rw [hModule] at hPrepare
    obtain ⟨t, hWarnings, hOutcome⟩ := hPrepare
    obtain ⟨u, hKept, hDeliver⟩ := deliver_outcome
      (output.map (outputPath input · settings.extension)) content code.value t
    rw [hOutcome]
    dsimp only
    rw [outcome_bind, hDeliver]
    cases (output.map (outputPath input · settings.extension)).bind nameFault? with
    | some fault => rfl
    | none =>
      dsimp only
      rw [outcome_bind, compareNames_outcome]
      show Except.ok (⟨_, Note.texts .warning (u.notes ++ _), _, _⟩ : Verdict) = _
      rw [Note.texts_append, Note.texts_warnings, hKept, hWarnings]
      rfl

end Said

/-! ## What the comparison looks at -/

/-- Whether the comparison of names looks at the text of a document, with a mark before it or
without one. -/
def IsSeen (bytes : List UInt8) (s : List Char) : Prop :=
  Utf8.decodeLossy bytes = s ∨ Utf8.decodeLossy bytes = '\uFEFF' :: s

theorem decodeLossy_of_decode? {bytes : List UInt8} {s : List Char}
    (h : Utf8.decode? bytes = some s) : Utf8.decodeLossy bytes = s := by
  unfold Utf8.decode? at h
  unfold Utf8.decodeLossy
  generalize Utf8.scan bytes = steps at h
  induction steps generalizing s with
  | nil =>
    obtain rfl := Option.some.inj h
    rfl
  | cons step steps ih =>
    rw [List.mapM_cons] at h
    obtain ⟨c, hStep, h⟩ := Option.bind_eq_some_iff.1 h
    obtain ⟨t, hSteps, h⟩ := Option.bind_eq_some_iff.1 h
    obtain rfl := Option.some.inj h
    cases step with
    | error fault => exact nomatch hStep
    | ok d =>
      obtain rfl := Option.some.inj hStep
      rw [List.map_cons, ih hSteps]

/-- Bytes of ASCII are their own characters. -/
theorem decodeLossy_of_ascii {bytes : List UInt8} (h : ∀ b ∈ bytes, b.toNat < 128) :
    Utf8.decodeLossy bytes = bytes.map fun b => Char.ofNat b.toNat := by
  unfold Utf8.decodeLossy Utf8.scan
  induction bytes with
  | nil => rfl
  | cons b bytes ih =>
    have hStep : Utf8.step b bytes = .char (Char.ofNat b.toNat) 1 := by
      rw [Utf8.step, if_pos (h b List.mem_cons_self)]
    have hRest := ih fun c hc => h c (List.mem_cons_of_mem _ hc)
    simp only [Utf8.scanFrom, hStep, List.map_cons, ← hRest]

/-- The mark of UTF-8 is the only one that shows that encoding. -/
theorem eq_or_eq_of_utf8 {bytes rest : List UInt8} (h : encodingOf bytes = .ok (.utf8, rest)) :
    bytes = rest ∨ bytes = 0xEF :: 0xBB :: 0xBF :: rest := by
  unfold encodingOf at h
  split at h
  · next marked hMark =>
    obtain rfl := Except.ok.inj h
    unfold Encoding.ofMark? at hMark
    split at hMark
    · obtain ⟨-, rfl⟩ := Prod.mk.inj (Option.some.inj hMark)
      exact .inr rfl
    all_goals exact nomatch hMark
  · cases hDeclared : declaredEncoding bytes with
    | error fault =>
      rw [hDeclared] at h
      exact nomatch h
    | ok encoding =>
      rw [hDeclared] at h
      obtain ⟨-, rfl⟩ := Prod.mk.inj (Except.ok.inj h)
      exact .inl rfl

/-- A document in UTF-8 is compared by its own text. -/
theorem isSeen_utf8 {bytes rest : List UInt8} {s : List Char}
    (hEncoding : encodingOf bytes = .ok (.utf8, rest)) (hText : textOf bytes = .ok s) :
    IsSeen bytes s := by
  have hDecode : Utf8.decode? rest = some s := by
    rw [textOf, hEncoding] at hText
    change textIn (.utf8, rest) = .ok s at hText
    rw [textIn] at hText
    split at hText
    · next t ht =>
      obtain rfl := Except.ok.inj hText
      exact ht
    · cases hText
  rcases eq_or_eq_of_utf8 hEncoding with rfl | rfl
  · exact .inl (decodeLossy_of_decode? hDecode)
  · exact .inr (congrArg ('\uFEFF' :: ·) (decodeLossy_of_decode? hDecode))

theorem decode?_ascii {bytes : List UInt8} (h : ∀ b ∈ bytes, b.toNat < 128) :
    Encoding.ascii.decode? bytes = some (bytes.map fun b => Char.ofNat b.toNat) := by
  show bytes.mapM (fun b => if b.toNat < 128 then some (Char.ofNat b.toNat) else none) = _
  induction bytes with
  | nil => rfl
  | cons b bytes ih =>
    have hRest := ih fun c hc => h c (List.mem_cons_of_mem _ hc)
    rw [List.mapM_cons, if_pos (h b List.mem_cons_self), hRest]
    rfl

/-- A document of ASCII characters is compared by its own text. -/
theorem isSeen_ascii {bytes : List UInt8} {s : List Char}
    (hEncoding : encodingOf bytes = .ok (.latin1, bytes) ∨ encodingOf bytes = .ok (.ascii, bytes))
    (hText : textOf bytes = .ok s) (hAscii : ∀ b ∈ bytes, b.toNat < 128) : IsSeen bytes s := by
  refine .inl ((decodeLossy_of_ascii hAscii).trans ?_)
  rcases hEncoding with hEncoding | hEncoding
  · rw [textOf, hEncoding] at hText
    exact Except.ok.inj hText
  · rw [textOf, hEncoding] at hText
    change textIn (.ascii, bytes) = .ok s at hText
    rw [textIn, decode?_ascii hAscii] at hText
    exact Except.ok.inj hText

theorem IsSeen.inside {bytes : List UInt8} {s : List Char} (h : IsSeen bytes s) :
    Comparison.inside (Utf8.decodeLossy bytes) = Comparison.inside s := by
  rcases h with h | h
  · rw [h]
  · rw [h, Comparison.inside, Comparison.inside, Comparison.withoutProlog_mark]

/-- Two texts that are the same behind their declarations are the same inside. -/
theorem Markup.SameBehind.inside {s t : List Char} (h : SameBehind s t) :
    Comparison.inside s = Comparison.inside t := by
  obtain ⟨left, right, -, -⟩ := h
  rw [Comparison.inside, Comparison.inside,
    Comparison.withoutProlog_declares (ensures_readHeading? s _ left),
    Comparison.withoutProlog_declares (ensures_readHeading? t _ right)]

/-- Texts of which the same stands inside miss the same of a module. -/
theorem differencesFor_congr {s t : List Char} (h : Comparison.inside s = Comparison.inside t)
    (settings : Settings) (code : String) :
    differencesFor settings (String.ofList s) code =
      differencesFor settings (String.ofList t) code := by
  simp only [differencesFor, Comparison.differences, Comparison.elementNames,
    Comparison.attributeNames, Comparison.names, String.toList_ofList, h]

/-! ## A document in two encodings -/

/-- Whether two conversions say the same but for what is missing in the comparison of names. -/
inductive SaySame : Except ConversionFault Verdict → Except ConversionFault Verdict → Prop
  | fault (fault : ConversionFault) : SaySame (.error fault) (.error fault)
  | module (code : String) (warnings differences₁ differences₂ : List String) :
    SaySame (.ok (.of code warnings differences₁)) (.ok (.of code warnings differences₂))

/-- Whether a document is refused since its references stand for too much text. -/
def IsExceeded (said : Except ConversionFault Verdict) : Prop :=
  said = .error (.document .expansion "")

theorem readDocument_of_textOf {bytes : List UInt8} {s : List Char} (h : textOf bytes = .ok s) :
    readDocument bytes = readCharacters s := by
  rw [readDocument_eq, h]
  rfl

theorem isExceeded_verdict {content : List UInt8} (h : readDocument content = .error .expansion)
    (settings : Settings) (name : CodeText) (target : Option Path) :
    IsExceeded (verdict settings name target content) := by
  rw [IsExceeded, verdict, moduleFor, h]

/-- A document that is read alike is converted alike. -/
theorem saySame_verdict {content₁ content₂ : List UInt8}
    (h : readDocument content₁ = readDocument content₂) (settings : Settings) (name : CodeText)
    (target : Option Path) :
    SaySame (verdict settings name target content₁) (verdict settings name target content₂) := by
  rw [verdict, verdict, show moduleFor settings name content₁ = moduleFor settings name content₂ by
    rw [moduleFor, moduleFor, h]]
  cases moduleFor settings name content₂ with
  | error fault => exact .fault fault
  | ok code =>
    dsimp only
    split
    · exact .fault _
    · exact .module _ _ _ _

/-- A document that is read alike and compared by the same text is converted with the same
differences. -/
theorem verdict_congr {content₁ content₂ : List UInt8}
    (h : readDocument content₁ = readDocument content₂)
    (hInside : Comparison.inside (Utf8.decodeLossy content₁) =
      Comparison.inside (Utf8.decodeLossy content₂))
    (settings : Settings) (name : CodeText) (target : Option Path) :
    verdict settings name target content₁ = verdict settings name target content₂ := by
  simp only [verdict, moduleFor, h, differencesFor_congr hInside]

/-- A document in two encodings, in files of one name of characters: the module and its warnings are
the same, and so is a refusal but for the words of the parser, unless the bounds on what references
may stand for differ with the size of the declaration and one of them is exceeded.  What is missing
in the comparison is the same, too, where the comparison looks at the text of both documents. -/
theorem convertFile_encodings (settings : Settings) {before₁ before₂ : Effect}
    {input₁ input₂ : Path} {output : Option Path} {content₁ content₂ : List UInt8}
    {s₁ s₂ : List Char} (hHeader : (headerText settings).isWhole = true)
    (hWhole : input₁.name.isWhole = true) (hName : input₁.name = input₂.name)
    (hSource₁ : IsSource before₁.store input₁ output content₁)
    (hSource₂ : IsSource before₂.store input₂ output content₂)
    (hText₁ : textOf content₁ = .ok s₁) (hText₂ : textOf content₂ = .ok s₂)
    (hSame : SameBehind s₁ s₂) :
    let said₁ := said (convertFile settings before₁ input₁ output).1
    let said₂ := said (convertFile settings before₂ input₂ output).1
    (allowedExpansion (textSize s₁) ≠ allowedExpansion (textSize s₂) ∧
        (IsExceeded said₁ ∨ IsExceeded said₂)) ∨
      (SaySame said₁ said₂ ∧ (IsSeen content₁ s₁ → IsSeen content₂ s₂ → said₁ = said₂)) := by
  have hTarget : output.map (outputPath input₁ · settings.extension) =
      output.map (outputPath input₂ · settings.extension) := by
    simp only [outputPath, hName]
  have hRead₁ := readDocument_of_textOf hText₁
  have hRead₂ := readDocument_of_textOf hText₂
  dsimp only
  rw [convertFile_said hHeader hWhole hSource₁, convertFile_said hHeader (hName ▸ hWhole) hSource₂,
    hTarget, hName]
  rcases readCharacters_alike hSame with hAlike | ⟨hBounds, hExceeded⟩
  · have hRead : readDocument content₁ = readDocument content₂ := by
      rw [hRead₁, hRead₂, hAlike]
    refine .inr ⟨saySame_verdict hRead _ _ _, fun hSeen₁ hSeen₂ => ?_⟩
    refine verdict_congr hRead ?_ _ _ _
    rw [hSeen₁.inside, hSeen₂.inside, hSame.inside]
  · refine .inl ⟨hBounds, ?_⟩
    rcases hExceeded with hExceeded | hExceeded
    · exact .inl (isExceeded_verdict (hRead₁.trans hExceeded) _ _ _)
    · exact .inr (isExceeded_verdict (hRead₂.trans hExceeded) _ _ _)

/-- A document with a letter beyond ASCII. -/
def accentText : String := "<svg viewBox='0 0 1 1' a='\u00E9'/>"

/-- The document in UTF-8 with a mark. -/
def markedContent : List UInt8 := 0xEF :: 0xBB :: 0xBF :: Utf8.encode accentText.toList

/-- The document in UTF-8 with a declaration. -/
def declaredContent : List UInt8 :=
  Utf8.encode ("<?xml version='1.0' encoding='UTF-8'?>" ++ accentText).toList

/-- The document in Latin-1. -/
def latinContent : List UInt8 :=
  ("<?xml version='1.0' encoding='ISO-8859-1'?>" ++ accentText).toList.map fun c =>
    UInt8.ofNat c.toNat

/-- A place with a file of the content. -/
def accentEffect (content : List UInt8) : Effect :=
  Effect.start ((Store.empty ["work"]).addFile (Path.read "a.svg") content)

/-- What is said of a file with the content. -/
def saidOf (content : List UInt8) : Except ConversionFault Verdict :=
  said (convertFile Settings.default (accentEffect content) (Path.read "a.svg") none).1

/-- The document with a mark, with a declaration, and in Latin-1. -/
theorem convertFile_encodings_accent :
    saidOf markedContent = saidOf declaredContent ∧
      SaySame (saidOf markedContent) (saidOf latinContent) := by
  have hHeader : (headerText Settings.default).isWhole = true := by decide +kernel
  have hName : (Path.read "a.svg").name.isWhole = true := by decide +kernel
  have hMarked : IsSource (accentEffect markedContent).store (Path.read "a.svg") none
      markedContent := ⟨by decide +kernel, by decide +kernel⟩
  have hDeclared : IsSource (accentEffect declaredContent).store (Path.read "a.svg") none
      declaredContent := ⟨by decide +kernel, by decide +kernel⟩
  have hLatin : IsSource (accentEffect latinContent).store (Path.read "a.svg") none
      latinContent := ⟨by decide +kernel, by decide +kernel⟩
  have hMarkedText : textOf markedContent = .ok accentText.toList := by decide +kernel
  have hDeclaredText : textOf declaredContent =
      .ok ("<?xml version='1.0' encoding='UTF-8'?>" ++ accentText).toList := by decide +kernel
  have hLatinText : textOf latinContent =
      .ok ("<?xml version='1.0' encoding='ISO-8859-1'?>" ++ accentText).toList := by decide +kernel
  have hMarkedHeading : readHeading? accentText.toList =
      .ok (⟨"1.0", none, false⟩, accentText.toList) := by decide +kernel
  have hDeclaredHeading :
      readHeading? ("<?xml version='1.0' encoding='UTF-8'?>" ++ accentText).toList =
        .ok (⟨"1.0", some "UTF-8", false⟩, accentText.toList) := by decide +kernel
  have hLatinHeading :
      readHeading? ("<?xml version='1.0' encoding='ISO-8859-1'?>" ++ accentText).toList =
        .ok (⟨"1.0", some "ISO-8859-1", false⟩, accentText.toList) := by decide +kernel
  have hMarkedEncoding : encodingOf markedContent =
      .ok (.utf8, Utf8.encode accentText.toList) := by decide +kernel
  have hDeclaredEncoding : encodingOf declaredContent = .ok (.utf8, declaredContent) := by
    decide +kernel
  constructor
  · rcases convertFile_encodings Settings.default hHeader hName rfl hMarked hDeclared hMarkedText
      hDeclaredText (.intro hMarkedHeading hDeclaredHeading rfl rfl) with ⟨hBounds, -⟩ | ⟨-, hEqual⟩
    · exact absurd (by decide +kernel) hBounds
    · exact hEqual (isSeen_utf8 hMarkedEncoding hMarkedText)
        (isSeen_utf8 hDeclaredEncoding hDeclaredText)
  · rcases convertFile_encodings Settings.default hHeader hName rfl hMarked hLatin hMarkedText
      hLatinText (.intro hMarkedHeading hLatinHeading rfl rfl) with ⟨hBounds, -⟩ | ⟨hSame, -⟩
    · exact absurd (by decide +kernel) hBounds
    · exact hSame

end SvgBuilder
