import SvgBuilder.Command.Run
import SvgBuilder.Proofs.File.Batch
import SvgBuilder.Proofs.File.Report

/-!
# Exit codes

What is asked for decides the exit code in three steps.  First there must be something to convert
and there must be settings; whether there are settings does not depend on what is converted.  Then
the conversion of a file has a result or ends without one.  At last a report may be printed, which
can be done if the names in all paths are of characters.

A command on a directory with one document and a command on that document convert the same file, by
the same settings and from the same store.  So they end alike without settings, and they end alike
with a result.  They part where a conversion ends without a result: in a directory this is an error
in a result, and alone it is the end of the command.  So a file that cannot be read or written lets
one of them end with 3 and the other one with 1.

Nothing is said here about how a command on a document alone ends if the document is not well
formed, if its module cannot be written down or if its names cannot be compared.

## Main results

* `exitCode_of_isThere`: the exit code of a command by its settings and its conversions.
* `exitCode_ended`: the exit code behind results whose report can be printed.
* `Store.HoldsOnly.documentEntries_eq`: the documents of a directory with one document.
* `exitCode_of_only_document`: the exit codes for a directory with one document and for the
  document.
* `exitCode_missing_output`: they differ if there is no directory for the output.
-/

namespace SvgBuilder

open SvgBuilder.Text

/-- The path of a name in a directory. -/
def Path.inside (directory : Path) (name : CodeText) : Path :=
  ⟨directory.root, directory.names ++ [name]⟩

/-- Whether there is a directory, and one name alone in it is the name of a document. -/
structure Store.HoldsOnly (store : Store) (directory : Path) (name : CodeText) : Prop where
  isDirectory : store.isDirectory directory = true
  only : ∀ l, store.locate directory = .ok l → ∀ n,
    isDocumentName n = true ∧ store.IsTaken (l ++ [n]) ↔ n = name

/-- Whether a conversion ends since files or directories cannot be used. -/
def ConversionFault.isAboutFiles : ConversionFault → Bool
  | .inputMissing _ | .inputUnreadable _ | .outputMissing _ | .outputUnwritable _ => true
  | .inputNoDirectory _ | .refused _ _ | .inputUnread _ _ => true
  | .document _ _ | .brokenName | .unencodable _ | .longSize | .unnamed => false

/-- If a directory with one document can be listed, the document is all that is to be converted. -/
theorem Store.HoldsOnly.documentEntries_eq {store : Store} {directory : Path} {name : CodeText}
    {entries : List Path} (h : store.HoldsOnly directory name)
    (hList : store.list directory = .ok entries) :
    documentEntries store directory = .ok [directory.inside name] := by
  have hInputs : documentEntries store directory =
      .ok (entries.filter fun entry => isDocumentName entry.name) := by
    rw [documentEntries, hList]
    rfl
  have hMem : ∀ input, input ∈ entries.filter (fun entry => isDocumentName entry.name) ↔
      input ∈ [directory.inside name] := by
    intro input
    rw [mem_documentEntries hInputs, List.mem_singleton]
    constructor
    · rintro ⟨l, n, hLocate, hTaken, hName, rfl⟩
      rw [(h.only l hLocate n).1 ⟨hName, hTaken⟩, Path.inside]
    · rintro rfl
      obtain ⟨l, hLocate, -⟩ := list_eq_ok hList
      obtain ⟨hName, hTaken⟩ := (h.only l hLocate name).2 rfl
      exact ⟨l, name, hLocate, hTaken, hName, rfl⟩
  have hPerm := (List.perm_ext_iff_of_nodup (documentEntries_nodup hInputs)
    (List.pairwise_singleton _ _)).2 hMem
  rw [hInputs, List.perm_singleton.1 hPerm]

namespace Command

/-- The exit code of a run. -/
def exitCode : Except Breakdown Ended → Nat
  | .ok ended => ended.exitCode
  | .error _ => 1

/-- The same command on something else. -/
def Arguments.on (a : Arguments) (path : Path) : Arguments := { a with input := path }

/-- The settings that a command asks for, or the exit code if they cannot be had: 1 if nothing is
where they should be, and 2 if they are not accepted. -/
def Arguments.settings (a : Arguments) (store : Store) : Except Nat Settings :=
  match a.config with
  | none => .ok (a.adjust .default)
  | some .nothing => .error 1
  | some (.file path) =>
    if store.isThere path then
      match readSettings store path with
      | .error _ => .error 2
      | .ok settings => .ok (a.adjust settings)
    else .error 1

/-- The exit code behind results: 3 if there are errors. -/
def resultsCode (conversions : List Conversion) : Nat :=
  if conversions.any fun c => Note.anyError c.notes then 3 else 0

/-- The exit code behind conversions, with what they leave. -/
def Arguments.conversionCode (a : Arguments) : Except Failed (List Conversion) × Effect → Nat
  | (.error _, _) => 1
  | (.ok conversions, after) => (a.ended conversions after).exitCode

section Run

variable (a : Arguments) {before : Effect}

/-- Results whose report can be printed. -/
theorem exitCode_ended {conversions : List Conversion} (h : ∀ c ∈ conversions, c.entry.IsWhole)
    (effect : Effect) : (a.ended conversions effect).exitCode = resultsCode conversions := by
  have hReport : (report (conversions.map Conversion.entry)).loneRun? = none :=
    CodeText.loneRun?_eq_none_iff.2 (isWhole_report (by simpa using h))
  have hPrinted : (a.report? conversions effect.store).bind CodeText.loneRun? = none := by
    unfold Arguments.report?
    split
    · exact hReport
    · rfl
  unfold Arguments.ended
  simp only [hPrinted]
  rfl

theorem exitCode_runWith (settings : Settings) (before : Effect) :
    (a.runWith settings before).exitCode =
      a.conversionCode (a.convert (a.adjust settings) before) := by
  unfold Arguments.runWith
  rcases a.convert (a.adjust settings) before with ⟨outcome, after⟩
  cases outcome with
  | error failed => rfl
  | ok conversions => rfl

/-- Nothing to convert, be it that the system refuses to follow the path. -/
theorem exitCode_of_not_isThere (h : before.store.isThere a.input = false) :
    exitCode (a.run before) = 1 := by
  unfold Arguments.run
  split
  · rfl
  · rw [if_pos (by simp [h])]
    rfl

theorem exitCode_of_isThere (h : before.store.isThere a.input = true) :
    exitCode (a.run before) =
      match a.settings before.store with
      | .error code => code
      | .ok settings => a.conversionCode (a.convert settings before) := by
  unfold Arguments.run Arguments.settings
  simp only [Store.refusal?_of_isThere h, h, Bool.not_true, Bool.false_eq_true, if_false]
  rcases a.config with _ | path | _
  · exact exitCode_runWith a .default before
  · by_cases hThere : before.store.isThere path = true
    · simp only [Store.refusal?_of_isThere hThere, Arguments.runFrom, hThere, Bool.not_true,
        Bool.false_eq_true, if_false, if_true]
      cases readSettings before.store path with
      | error message => rfl
      | ok settings => exact exitCode_runWith a settings before
    · simp only [hThere, Arguments.runFrom]
      split
      · rfl
      · rw [if_pos (by simp)]
        rfl
  · rfl

end Run

section OnlyDocument

variable {a : Arguments} {before : Effect} {settings : Settings} {directory path : Path}
  {name : CodeText}

theorem settings_on (a : Arguments) (path : Path) (store : Store) :
    (a.on path).settings store = a.settings store := rfl

theorem exitCode_on_of_not_isThere (h : before.store.isThere path = false) :
    exitCode ((a.on path).run before) = 1 :=
  exitCode_of_not_isThere (a.on path) h

/-- Settings that cannot be had end a command, whatever it is on. -/
theorem exitCode_on_of_settings_error (h : before.store.isThere path = true) {code : Nat}
    (hSettings : a.settings before.store = .error code) :
    exitCode ((a.on path).run before) = code := by
  rw [exitCode_of_isThere (a.on path) h, settings_on, hSettings]

theorem exitCode_on_of_settings (h : before.store.isThere path = true)
    (hSettings : a.settings before.store = .ok settings) :
    exitCode ((a.on path).run before) =
      (a.on path).conversionCode ((a.on path).convert settings before) := by
  rw [exitCode_of_isThere (a.on path) h, settings_on, hSettings]

/-- The exit code behind the conversion of a file alone that has a result. -/
theorem conversionCode_file (h : before.store.isDirectory path = false) {c : Conversion}
    (hc : (convertFile settings before path a.output).1 = .ok c) (hEntry : c.entry.IsWhole) :
    (a.on path).conversionCode ((a.on path).convert settings before) = resultsCode [c] := by
  have hConvert : (a.on path).convert settings before =
      (.ok [c], (convertFile settings before path a.output).2) := by
    simp [Arguments.convert, Arguments.on, h, hc, Except.map]
  rw [hConvert, Arguments.conversionCode, exitCode_ended _ (List.forall_mem_singleton.2 hEntry)]

theorem conversionCode_file_failed (h : before.store.isDirectory path = false) {failed : Failed}
    (hFailed : (convertFile settings before path a.output).1 = .error failed) :
    (a.on path).conversionCode ((a.on path).convert settings before) = 1 := by
  have hConvert : (a.on path).convert settings before =
      (.error failed, (convertFile settings before path a.output).2) := by
    simp [Arguments.convert, Arguments.on, h, hFailed, Except.map]
  rw [hConvert, Arguments.conversionCode]

/-- The exit code behind the conversion of a directory with one document. -/
theorem conversionCode_directory (h : before.store.HoldsOnly directory name) {entries : List Path}
    (hList : before.store.list directory = .ok entries)
    (hEntry : (convertEntry settings a.output before (directory.inside name)).1.entry.IsWhole) :
    (a.on directory).conversionCode ((a.on directory).convert settings before) =
      resultsCode [(convertEntry settings a.output before (directory.inside name)).1] := by
  have hDirectory : convertDirectory settings before directory a.output = _ :=
    convertDirectory_of_documentEntries h.isDirectory (h.documentEntries_eq hList)
  have hConvert : (a.on directory).convert settings before =
      (.ok [(convertEntry settings a.output before (directory.inside name)).1],
        (convertEntry settings a.output before (directory.inside name)).2) := by
    simp [Arguments.convert, Arguments.on, h.isDirectory, hDirectory, Except.mapError, convertEntries]
  rw [hConvert, Arguments.conversionCode, exitCode_ended _ (List.forall_mem_singleton.2 hEntry)]

/-- A directory that cannot be listed. -/
theorem conversionCode_unlisted (h : before.store.isDirectory directory = true) {fault : PathFault}
    (hList : before.store.list directory = .error fault) (settings : Settings) :
    (a.on directory).conversionCode ((a.on directory).convert settings before) = 1 := by
  have hPassed := Store.refusal?_of_isDirectory h
  have hConvert : (a.on directory).convert settings before =
      (.error ⟨.refused directory fault, []⟩, before) := by
    simp [Arguments.convert, Arguments.on, convertDirectory, hPassed, h, documentEntries, hList,
      Except.map, Except.mapError]
  rw [hConvert, Arguments.conversionCode]

theorem convertEntry_of_ok {output : Option Path} {c : Conversion}
    (h : (convertFile settings before path output).1 = .ok c) :
    (convertEntry settings output before path).1 = c := by
  rcases hFile : convertFile settings before path output with ⟨outcome, after⟩
  rw [hFile] at h
  obtain rfl : outcome = .ok c := h
  simp [convertEntry, hFile]

/-- A file that cannot be converted counts as an error among the results. -/
theorem resultsCode_of_error {output : Option Path} {failed : Failed}
    (h : (convertFile settings before path output).1 = .error failed) :
    resultsCode [(convertEntry settings output before path).1] = 3 := by
  rcases hFile : convertFile settings before path output with ⟨outcome, after⟩
  rw [hFile] at h
  obtain rfl : outcome = .error failed := h
  rw [convertEntry_failed hFile]
  simp [resultsCode, Failed.conversion, Note.anyError]

theorem exitCode_directory_of_error (h : before.store.HoldsOnly directory name)
    {entries : List Path} (hList : before.store.list directory = .ok entries)
    (hSettings : a.settings before.store = .ok settings)
    (hEntry : (convertEntry settings a.output before (directory.inside name)).1.entry.IsWhole)
    {failed : Failed} (hFailed :
      (convertFile settings before (directory.inside name) a.output).1 = .error failed) :
    exitCode ((a.on directory).run before) = 3 := by
  rw [exitCode_on_of_settings (Store.isThere_of_any h.isDirectory) hSettings,
    conversionCode_directory h hList hEntry, resultsCode_of_error hFailed]

theorem exitCode_file_of_error (h : before.store.isDirectory path = false)
    (hSettings : a.settings before.store = .ok settings) {failed : Failed}
    (hFailed : (convertFile settings before path a.output).1 = .error failed) :
    exitCode ((a.on path).run before) = 1 := by
  by_cases hThere : before.store.isThere path = true
  · rw [exitCode_on_of_settings hThere hSettings, conversionCode_file_failed h hFailed]
  · exact exitCode_on_of_not_isThere (Bool.eq_false_iff.2 hThere)

/-- A conversion with a result is one of something that is there. -/
theorem isThere_of_convertFile {output : Option Path} {c : Conversion}
    (h : (convertFile settings before path output).1 = .ok c) :
    before.store.isThere path = true := by
  rcases hFile : convertFile settings before path output with ⟨outcome, after⟩
  rw [hFile] at h
  obtain rfl : outcome = .ok c := h
  obtain ⟨prepared, s, t, differences, hPrepared, -⟩ := completed_of_convertFile hFile
  obtain ⟨-, hFile, -⟩ := pathFault?_eq_none_iff.1 hPrepared.paths
  exact Store.isThere_of_any hFile

/-- The exit codes for a directory with one document and for the document.  Without settings they
are the same if the document can be found.  With them, they are the same if the conversion of the
document has a result, and otherwise the one for the directory is 3, and the one for the document is
1 if its conversion ends since files cannot be used.  The exit code for a directory that cannot be
listed is 1. -/
theorem exitCode_of_only_document (a : Arguments) {before : Effect} {directory : Path}
    {name : CodeText} (h : before.store.HoldsOnly directory name)
    (hFile : before.store.isDirectory (directory.inside name) = false)
    (hInput : (directory.inside name).IsWhole)
    (hOutput : ∀ output, a.output = some output → output.IsWhole) :
    (∀ code, a.settings before.store = .error code →
      exitCode ((a.on directory).run before) = code ∧
      exitCode ((a.on (directory.inside name)).run before) =
        if before.store.isThere (directory.inside name) then code else 1) ∧
    ∀ settings, a.settings before.store = .ok settings → settings.extension.isWhole = true →
      (∀ c, (convertFile settings before (directory.inside name) a.output).1 = .ok c →
        exitCode ((a.on (directory.inside name)).run before) =
          (if Note.anyError c.notes then 3 else 0) ∧
        ∀ entries, before.store.list directory = .ok entries →
          exitCode ((a.on directory).run before) =
            exitCode ((a.on (directory.inside name)).run before)) ∧
      (∀ failed, (convertFile settings before (directory.inside name) a.output).1 =
          .error failed →
        (∀ entries, before.store.list directory = .ok entries →
          exitCode ((a.on directory).run before) = 3) ∧
        (failed.fault.isAboutFiles = true →
          exitCode ((a.on (directory.inside name)).run before) = 1)) ∧
      ∀ fault, before.store.list directory = .error fault →
        exitCode ((a.on directory).run before) = 1 := by
  have hDirectory : before.store.isThere directory = true := Store.isThere_of_any h.isDirectory
  refine ⟨?_, ?_⟩
  · intro code hSettings
    refine ⟨exitCode_on_of_settings_error hDirectory hSettings, ?_⟩
    split
    · next hThere => exact exitCode_on_of_settings_error hThere hSettings
    · next hThere => exact exitCode_on_of_not_isThere (Bool.eq_false_iff.2 hThere)
  · intro settings hSettings hExtension
    have hEntry := isWhole_entry_convertEntry hExtension hOutput hInput before
    refine ⟨?_, ?_, ?_⟩
    · intro c hc
      have hOnly := convertEntry_of_ok hc
      have hAlone : exitCode ((a.on (directory.inside name)).run before) = resultsCode [c] := by
        rw [exitCode_on_of_settings (isThere_of_convertFile hc) hSettings,
          conversionCode_file hFile hc (hOnly ▸ hEntry)]
      refine ⟨by simpa [resultsCode] using hAlone, fun entries hList => ?_⟩
      rw [exitCode_on_of_settings hDirectory hSettings, conversionCode_directory h hList hEntry,
        hOnly, hAlone]
    · intro failed hFailed
      exact ⟨fun _ hList => exitCode_directory_of_error h hList hSettings hEntry hFailed,
        fun _ => exitCode_file_of_error hFile hSettings hFailed⟩
    · intro fault hList
      rw [exitCode_on_of_settings hDirectory hSettings,
        conversionCode_unlisted h.isDirectory hList]

end OnlyDocument

/-! ## One document -/

/-- A directory with one document, and what is said to be unreadable. -/
def loneStore (unreadable : List Location) : Store where
  here := ["work"]
  files := [(["work", "in", "a.svg"], Utf8.encode "<svg viewBox='0 0 1 1'/>".toList)]
  directories := [["work"], ["work", "in"]]
  unreadable := unreadable
  order := .asHeld

/-- What there is before a command on that directory. -/
def loneEffect (unreadable : List Location) : Effect := Effect.start (loneStore unreadable)

/-- That directory. -/
def loneDirectory : Path := ⟨"", ["in"]⟩

theorem holdsOnly_loneEffect (unreadable : List Location) :
    (loneEffect unreadable).store.HoldsOnly loneDirectory "a.svg" where
  isDirectory := by rfl
  only := by
    intro l hLocate n
    obtain rfl : l = ["work", "in"] := Except.ok.inj (hLocate.symm.trans (by rfl))
    simp only [Store.IsTaken, Store.locations, loneEffect, Effect.start, loneStore]
    constructor
    · rintro ⟨-, hTaken⟩
      simpa using hTaken
    · rintro rfl
      exact ⟨by decide, by simp⟩

theorem list_loneEffect (unreadable : List Location) :
    (loneEffect unreadable).store.list loneDirectory = .ok [loneDirectory.inside "a.svg"] := by rfl

/-- A command that compares no names. -/
def plainly (output : Option Path) (config : Option SettingsSource) : Arguments :=
  ⟨loneDirectory, output, config, false, true, false⟩

/-- The exit codes of a command on that directory and of the same command on the document. -/
def loneCodes (a : Arguments) (unreadable : List Location) : Nat × Nat :=
  (exitCode ((a.on loneDirectory).run (loneEffect unreadable)),
    exitCode ((a.on (loneDirectory.inside "a.svg")).run (loneEffect unreadable)))

/-- The conversion of that document alone. -/
def loneResult (output : Option Path) (unreadable : List Location) : Except Failed Conversion :=
  (convertFile unvalidated (loneEffect unreadable) (loneDirectory.inside "a.svg") output).1

/-- The document can be converted, it may not be read, and there are no settings where they should
be. -/
theorem exitCode_of_only_document_loneStore :
    loneCodes (plainly none none) [] = (0, 0) ∧
    loneCodes (plainly none none) [["work", "in", "a.svg"]] = (3, 1) ∧
    loneCodes (plainly none (some (.file ⟨"", ["c.yaml"]⟩))) [] = (1, 1) := by
  have hCodes := fun a unreadable hOutput =>
    exitCode_of_only_document a (holdsOnly_loneEffect unreadable) (by rfl) (by decide) hOutput
  have hNone (config : Option SettingsSource) :
      ∀ output, (plainly none config).output = some output → output.IsWhole := fun _ hOutput =>
    nomatch hOutput
  have hExtension : unvalidated.extension.isWhole = true := by decide
  refine ⟨?_, ?_, ?_⟩
  · have hEnd : (loneResult none []).toOption.map (fun c => Note.anyError c.notes) =
        some false := by decide +kernel
    cases hResult : loneResult none [] with
    | error failed =>
      rw [hResult] at hEnd
      exact nomatch hEnd
    | ok c =>
      rw [hResult] at hEnd
      have hErrors : Note.anyError c.notes = false := Option.some.inj hEnd
      obtain ⟨hAlone, hBoth⟩ :=
        ((hCodes (plainly none none) [] (hNone none)).2 unvalidated rfl hExtension).1 c hResult
      rw [loneCodes, hBoth _ (list_loneEffect []), hAlone, hErrors]
      rfl
  · obtain ⟨hDirectory, hAlone⟩ := ((hCodes (plainly none none) [["work", "in", "a.svg"]]
      (hNone none)).2 unvalidated rfl hExtension).2.1
        ⟨.inputUnreadable (loneDirectory.inside "a.svg"), []⟩ (by rfl)
    rw [loneCodes, hDirectory _ (list_loneEffect _), hAlone rfl]
  · obtain ⟨hDirectory, hAlone⟩ := (hCodes (plainly none (some (.file ⟨"", ["c.yaml"]⟩))) []
      (hNone _)).1 1 (by rfl)
    rw [loneCodes, hDirectory, hAlone]
    rfl

/-- Where there is no directory for the output, the exit code for the directory is 3, and the one
for the document is 1. -/
theorem exitCode_missing_output :
    (loneStore []).HoldsOnly loneDirectory "a.svg" ∧
    (loneStore []).isDirectory (loneDirectory.inside "a.svg") = false ∧
    loneCodes (plainly (some ⟨"", ["out"]⟩) none) [] = (3, 1) := by
  have hOnly := holdsOnly_loneEffect []
  have hFile : (loneEffect []).store.isDirectory (loneDirectory.inside "a.svg") = false := by rfl
  have hFails : (convertFile unvalidated (loneEffect []) (loneDirectory.inside "a.svg")
      (plainly (some ⟨"", ["out"]⟩) none).output).1 =
      .error ⟨.outputMissing ⟨"", ["out"]⟩, []⟩ := by rfl
  have hSettings : (plainly (some ⟨"", ["out"]⟩) none).settings (loneEffect []).store =
      .ok unvalidated := rfl
  have hOutput : ∀ output, (plainly (some ⟨"", ["out"]⟩) none).output = some output →
      output.IsWhole := by
    intro output hOutput
    obtain rfl := Option.some.inj hOutput
    decide
  have hExtension : unvalidated.extension.isWhole = true := by decide
  have hInput : (loneDirectory.inside "a.svg").IsWhole := by decide
  have hEntry := isWhole_entry_convertEntry hExtension hOutput hInput (loneEffect [])
  refine ⟨hOnly, hFile, ?_⟩
  rw [loneCodes, exitCode_directory_of_error hOnly (list_loneEffect []) hSettings hEntry hFails,
    exitCode_file_of_error hFile hSettings hFails]

end Command

end SvgBuilder
