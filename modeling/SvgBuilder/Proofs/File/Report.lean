import SvgBuilder.File.Report
import SvgBuilder.Proofs.File.Conversion
import SvgBuilder.Proofs.Text.Split

/-!
# Reports that can be printed

A report is printed in UTF-8, so all its code points have to be characters.  It names the files, and
it holds the warnings and the errors that were noted.  These are made of texts of characters and of
paths, and so are the words for a fault.  So the report about a conversion can be printed if the
paths of the command and the extension of modules are of characters.

## Main results

* `converting_whole`: what a conversion notes, and the words of a fault, are of characters.
* `isWhole_report`: a report is of characters if all that it is made from is.
* `isWhole_entry_convertEntries`: what a report says about conversions is of characters.
-/

namespace SvgBuilder

open SvgBuilder.Text SvgBuilder.Converting

/-! ## Paths of characters -/

/-- Whether all names of a path are of characters. -/
def Path.IsWhole (p : Path) : Prop := ∀ name ∈ p.names, name.isWhole = true

instance (p : Path) : Decidable p.IsWhole :=
  inferInstanceAs (Decidable (∀ name ∈ p.names, name.isWhole = true))

namespace Path

variable {p : Path}

theorem IsWhole.text (h : p.IsWhole) : p.text.isWhole = true := by
  unfold Path.text
  dsimp only
  split
  · exact CodeText.isWhole_ofString _
  · rw [CodeText.isWhole_append, CodeText.isWhole_ofString,
      CodeText.isWhole_joined (CodeText.isWhole_ofString _) h]
    rfl

theorem IsWhole.name (h : p.IsWhole) : p.name.isWhole = true := by
  rw [Path.name, List.getLastD_eq_getLast?]
  cases hLast : p.names.getLast? with
  | none => exact CodeText.isWhole_ofString _
  | some name => exact h name (List.mem_of_getLast? hLast)

theorem isWhole_of_mem_namesOf {s name : CodeText} (h : s.isWhole = true)
    (hName : name ∈ namesOf s) : name.isWhole = true := by
  obtain ⟨piece, hPiece, rfl⟩ := List.mem_map.1 (List.mem_filter.1 hName).1
  rw [CodeText.isWhole, List.all_eq_true] at h ⊢
  exact fun code hCode => h code (mem_of_mem_splitAt hPiece hCode)

theorem IsWhole.down (h : p.IsWhole) {s : CodeText} (hs : s.isWhole = true) :
    (p.down s).IsWhole := by
  intro name hName
  rcases List.mem_append.1 hName with hName | hName
  · exact h name hName
  · exact isWhole_of_mem_namesOf hs hName

end Path

/-- Where the module of a file is written. -/
theorem isWhole_outputPath {input directory : Path} {extension : CodeText} (hInput : input.IsWhole)
    (hDirectory : directory.IsWhole) (hExtension : extension.isWhole = true) :
    (outputPath input directory extension).IsWhole := by
  refine hDirectory.down ?_
  simp [isWhole_withoutExtension hInput.name, hExtension]

/-! ## Faults in words of characters -/

/-- Whether the words of a fault are of characters. -/
def ConversionFault.IsWhole (fault : ConversionFault) : Prop := fault.words.isWhole = true

theorem ConversionFault.IsWhole.message {fault : ConversionFault} (h : fault.IsWhole) :
    fault.message.isWhole = true := by
  unfold ConversionFault.message
  split
  · exact CodeText.isWhole_ofString _
  · exact h

theorem isWhole_of_pathFault? {store : Store} {input : Path} {output : Option Path}
    (hInput : input.IsWhole) (hOutput : ∀ directory, output = some directory → directory.IsWhole)
    {fault : ConversionFault} (h : pathFault? store input output = some fault) : fault.IsWhole := by
  have hAbout (text : String) {path : Path} (hPath : path.IsWhole) :
      ((text : CodeText) ++ path.text).isWhole = true := by simp [hPath.text]
  unfold pathFault? at h
  split at h
  · obtain rfl := Option.some.inj h
    exact CodeText.isWhole_ofString _
  · split at h
    · obtain rfl := Option.some.inj h
      exact hAbout _ hInput
    · split at h
      · obtain rfl := Option.some.inj h
        exact hAbout _ hInput
      · obtain ⟨directory, hDirectory, h⟩ := Option.bind_eq_some_iff.1 h
        have hWhole := hOutput directory hDirectory
        split at h
        · obtain rfl := Option.some.inj h
          exact CodeText.isWhole_ofString _
        · split at h
          · obtain rfl := Option.some.inj h
            exact hAbout _ hWhole
          · split at h
            · obtain rfl := Option.some.inj h
              exact hAbout _ hWhole
            · exact nomatch h

theorem isWhole_of_nameFault? {path : Path} {fault : ConversionFault}
    (h : nameFault? path = some fault) : fault.IsWhole := by
  unfold nameFault? at h
  split at h
  · obtain rfl := Option.some.inj h
    exact CodeText.isWhole_ofString _
  · split at h
    · obtain rfl := Option.some.inj h
      exact CodeText.isWhole_ofString _
    · exact nomatch h

/-! ## Steps that note texts of characters -/

/-- Whether all that is noted in a session is of characters. -/
def Converting.IsWhole (s : Session) : Prop := ∀ n ∈ s.notes, n.IsWhole

/-- Whether a step goes on noting texts of characters, and breaks off with words of characters. -/
def Converting.SpeaksWhole {α : Type} (x : Converting α) : Prop :=
  Keeps Converting.IsWhole ConversionFault.IsWhole x

theorem speaksWhole_keep {α : Type} {x : Noted α} (hx : x.All Note.IsWhole) :
    SpeaksWhole (keep x) := fun _ hs => Meets.keep (List.forall_mem_append.2 ⟨hs, hx⟩)

theorem speaksWhole_setStore (store : Store) : SpeaksWhole (setStore store) := fun _ hs => hs

theorem speaksWhole_print (text : String) : SpeaksWhole (print text) := fun _ hs => hs

theorem speaksWhole_stopAt_lone (lone : Option CodeText.LoneRun) :
    SpeaksWhole (stopAt (lone.map .unencodable)) := by
  refine Keeps.stopAt fun fault hFault => ?_
  obtain ⟨run, -, rfl⟩ := Option.map_eq_some_iff.1 hFault
  exact CodeText.isWhole_ofString _

theorem speaksWhole_fillFile {path : Path} (hPath : path.IsWhole) (l : Location)
    (prepared : Prepared) : SpeaksWhole (fillFile path l prepared) := by
  refine Keeps.get fun s => (speaksWhole_setStore _).bind fun _ => ?_
  refine (speaksWhole_stopAt_lone prepared.lone).bind fun _ => Keeps.get fun t => ?_
  refine (speaksWhole_setStore _).bind fun _ => ?_
  split
  · refine speaksWhole_keep (Noted.All.note ?_)
    simp [Note.IsWhole, writtenInfo, hPath.text]
  · refine speaksWhole_keep (Noted.All.note ?_)
    simp [Note.IsWhole, unwrittenError, hPath.text]

theorem speaksWhole_deliver {target : Option Path} (h : ∀ path, target = some path → path.IsWhole)
    (prepared : Prepared) : SpeaksWhole (deliver target prepared) := by
  cases target with
  | none => exact (speaksWhole_stopAt_lone prepared.lone).bind fun _ => speaksWhole_print _
  | some path =>
    have hPath := h path rfl
    refine (Keeps.stopAt fun _ => isWhole_of_nameFault?).bind fun _ => Keeps.get fun s => ?_
    split
    · exact speaksWhole_fillFile hPath _ prepared
    · refine speaksWhole_keep (Noted.All.note ?_)
      simp [Note.IsWhole, unwrittenError, hPath.text]

theorem speaksWhole_compareNames (settings : Settings) (document code : String) :
    SpeaksWhole (compareNames settings document code) := by
  unfold compareNames
  split
  · split
    · refine speaksWhole_keep fun n hn => ?_
      obtain ⟨text, -, rfl⟩ := List.mem_map.1 hn
      exact Note.isWhole_mk _ _
    · exact Keeps.throw (CodeText.isWhole_ofString _)
  · exact Keeps.pure _

/-! ## Entries of reports -/

/-- Whether all texts of an entry are of characters. -/
structure ReportEntry.IsWhole (e : ReportEntry) : Prop where
  fileName : e.fileName.isWhole = true
  warnings : ∀ text ∈ e.warnings, text.isWhole = true
  errors : ∀ text ∈ e.errors, text.isWhole = true

theorem isWhole_of_mem_spellings {notes : List Note} (h : ∀ n ∈ notes, n.IsWhole) {level : Level}
    {text : CodeText} (hText : text ∈ Note.spellings level notes) : text.isWhole = true := by
  obtain ⟨n, hn, rfl⟩ := List.mem_map.1 hText
  exact h n (List.mem_filter.1 hn).1

theorem isWhole_entry {c : Conversion} (hPath : c.path.IsWhole)
    (hNotes : ∀ n ∈ c.notes, n.IsWhole) : c.entry.IsWhole :=
  ⟨hPath.name, fun _ => isWhole_of_mem_spellings hNotes, fun _ => isWhole_of_mem_spellings hNotes⟩

theorem ReportEntry.isWhole_messageLines (title : String) {messages : List CodeText}
    (h : ∀ text ∈ messages, text.isWhole = true) :
    ∀ line ∈ messageLines title messages, line.isWhole = true := by
  unfold messageLines
  split
  · exact fun line hLine => absurd hLine List.not_mem_nil
  · refine List.forall_mem_cons.2 ⟨CodeText.isWhole_ofString _, fun line hLine => ?_⟩
    obtain ⟨text, hText, rfl⟩ := List.mem_map.1 hLine
    simp [h text hText]

theorem ReportEntry.IsWhole.lines {e : ReportEntry} (h : e.IsWhole) :
    ∀ line ∈ e.lines, line.isWhole = true := by
  have hEnd : ∀ line ∈ ([""] : List CodeText), line.isWhole = true :=
    List.forall_mem_singleton.2 (CodeText.isWhole_ofString _)
  refine List.forall_mem_append.2 ⟨List.forall_mem_append.2 ⟨List.forall_mem_cons.2 ⟨?_, ?_⟩, ?_⟩,
    hEnd⟩
  · simp [h.fileName]
  · exact isWhole_messageLines _ h.warnings
  · exact isWhole_messageLines _ h.errors

/-- A report is of characters if its entries are. -/
theorem isWhole_report {entries : List ReportEntry} (h : ∀ e ∈ entries, e.IsWhole) :
    (report entries).isWhole = true := by
  refine CodeText.isWhole_joined (CodeText.isWhole_ofString _) fun line hLine => ?_
  rcases List.mem_append.1 hLine with hLine | hLine
  · obtain ⟨e, he, hLine⟩ := List.mem_flatMap.1 hLine
    exact (h e he).lines line hLine
  · simp only [summaryLines, List.mem_cons, List.not_mem_nil, or_false] at hLine
    rcases hLine with rfl | rfl | rfl | rfl | rfl | rfl | rfl <;> exact CodeText.isWhole_ofString _

/-! ## Conversions -/

section Conversion

variable {settings : Settings} {input : Path} {output : Option Path}
  (hExtension : settings.extension.isWhole = true)
  (hOutput : ∀ directory, output = some directory → directory.IsWhole)

include hOutput

theorem speaksWhole_prepare (hInput : input.IsWhole) :
    SpeaksWhole (prepare settings input output) := by
  intro s hs
  have hKeeps : Keeps (IsUntouched Note.IsWhole s.effect) ConversionFault.IsWhole
      (prepare settings input output) :=
    keeps_prepare (by simp [Note.IsWhole, hInput.text]) (allWhole_assemble _ _ _)
      (fun _ _ => isWhole_of_pathFault? hInput hOutput) (fun _ => CodeText.isWhole_ofString _)
      (fun _ _ => CodeText.isWhole_ofString _) (CodeText.isWhole_ofString _)
  exact (hKeeps s ⟨rfl, hs⟩).imp (fun _ _ ht => ht.notes) fun _ _ ht => ⟨ht.1, ht.2.notes⟩

include hExtension

/-- What a conversion notes, and the words of a fault, are of characters. -/
theorem converting_whole (hInput : input.IsWhole) (before : Effect) :
    Meets ⟨before, []⟩ (converting settings input output)
      (fun c _ => c.path = input ∧ ∀ n ∈ c.notes, n.IsWhole)
      fun fault t => fault.IsWhole ∧ Converting.IsWhole t := by
  have hStart : Converting.IsWhole ⟨before, []⟩ := fun _ hn => absurd hn List.not_mem_nil
  have hTarget : ∀ path, output.map (outputPath input · settings.extension) = some path →
      path.IsWhole := by
    intro path hPath
    obtain ⟨directory, hDirectory, rfl⟩ := Option.map_eq_some_iff.1 hPath
    exact isWhole_outputPath hInput (hOutput directory hDirectory) hExtension
  refine (speaksWhole_prepare hOutput hInput _ hStart).bind fun prepared s hs => ?_
  refine (speaksWhole_deliver hTarget prepared s hs).bind fun _ t ht => ?_
  refine (speaksWhole_compareNames settings _ prepared.code t ht).bind fun differences u hu => ?_
  exact Meets.get (Meets.pure ⟨rfl, hu⟩)

/-! ## Reports -/

/-- What a report says about a conversion is of characters, be it one with a result or not. -/
theorem isWhole_entry_convertEntry (hInput : input.IsWhole) (before : Effect) :
    (convertEntry settings output before input).1.entry.IsWhole := by
  have hWhole := converting_whole hExtension hOutput hInput before
  rw [Meets] at hWhole
  unfold convertEntry convertFile
  rcases hOutcome : (converting settings input output).outcome ⟨before, []⟩ with ⟨r, t⟩
  rw [hOutcome] at hWhole
  cases r with
  | ok c => exact isWhole_entry (hWhole.1 ▸ hInput) hWhole.2
  | error fault =>
    refine isWhole_entry hInput (List.forall_mem_append.2 ⟨hWhole.2, ?_⟩)
    refine List.forall_mem_cons.2 ⟨?_, List.forall_mem_singleton.2 hWhole.1.message⟩
    simp [Note.IsWhole, hInput.text]

/-- What a report says about files that are converted one after another is of characters. -/
theorem isWhole_entry_convertEntries {inputs : List Path}
    (hInputs : ∀ input ∈ inputs, input.IsWhole) (before : Effect) :
    ∀ c ∈ (convertEntries settings output before inputs).1, c.entry.IsWhole := by
  induction inputs generalizing before with
  | nil => exact fun c hc => absurd hc List.not_mem_nil
  | cons input inputs ih =>
    obtain ⟨hInput, hRest⟩ := List.forall_mem_cons.1 hInputs
    refine List.forall_mem_cons.2 ⟨?_, ih hRest _⟩
    exact isWhole_entry_convertEntry hExtension hOutput hInput before

end Conversion

end SvgBuilder
