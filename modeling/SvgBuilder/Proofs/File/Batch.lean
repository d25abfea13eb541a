import SvgBuilder.Proofs.File.Conversion

/-!
# Conversions of directories

Converting a directory is converting its documents one after another.  Each conversion starts from
the store and the output that the one before has left and has its own notes, so it is the conversion
that the document would have alone at that point.  A conversion that ends without a result gets one:
it is empty, and behind the notes that were made stands why there is none, as the only new error.
Such a conversion has changed nothing, unless its module cannot be written for its code points; then
the file of the module is empty.

The documents are listed before the first one is converted, in any order, and what a conversion
writes is not among them.  There is no batch for a path that is no directory, for one that the
system refuses to follow and for a directory that it refuses to list, and then nothing is changed.

## Main results

* `isDocumentName_iff`: a document is known by its extension in any letter case.
* `mem_documentEntries`, `documentEntries_nodup`: the documents of a directory, each once.
* `batch_convertEntries`: files are converted one after another, whatever their order.
* `convertDirectory_batch`: the documents of a directory are converted so, or nothing is changed.
-/

namespace SvgBuilder

open SvgBuilder.Text

/-! ## Documents of a directory -/

theorem isDocumentName_iff (name : CodeText) :
    isDocumentName name = true ↔
      ∃ stem extension, name.codes = stem ++ extension ∧
        extension.map (fun code => (CodeText.codeChar code).toLower) = ['.', 's', 'v', 'g'] := by
  rw [isDocumentName, hasReversedExtension, decide_eq_true_iff, reversedExtension]
  constructor
  · intro h
    refine ⟨(name.codes.reverse.drop 4).reverse, (name.codes.reverse.take 4).reverse, ?_, ?_⟩
    · rw [← List.reverse_append, List.take_append_drop, List.reverse_reverse]
    · rw [List.map_reverse, h]
      rfl
  · rintro ⟨stem, extension, hName, hExtension⟩
    have hLength : extension.reverse.length = 4 := by
      simpa using congrArg List.length hExtension
    rw [hName, List.reverse_append, List.take_left' hLength, List.map_reverse, hExtension]
    rfl

theorem nodup_eraseDups {α : Type} [DecidableEq α] (as : List α) : as.eraseDups.Nodup := by
  induction as using List.reverseRecOn with
  | nil => simp
  | append_singleton as a ih =>
    rw [OrderedMap.eraseDups_append_singleton]
    split
    · exact ih
    · next hNew =>
      refine List.nodup_append.2 ⟨ih, List.pairwise_singleton _ a, fun b hb c hc => ?_⟩
      rw [List.mem_singleton.1 hc]
      exact ne_of_mem_of_not_mem (List.mem_eraseDups.1 hb) hNew

namespace Store

theorem nameIn?_eq_some {outer l : Location} {name : CodeText} :
    nameIn? outer l = some name ↔ l = outer ++ [name] := by
  unfold nameIn?
  constructor
  · intro h
    split at h
    · next last hLast =>
      split at h
      · next hOuter =>
        obtain rfl := Option.some.inj h
        obtain ⟨front, rfl⟩ := List.getLast?_eq_some_iff.1 hLast
        rw [← hOuter, List.dropLast_concat]
      · exact nomatch h
    · exact nomatch h
  · rintro rfl
    simp

/-- Whether there is something at a location. -/
def IsTaken (store : Store) (l : Location) : Prop := l ∈ store.locations

theorem mem_namesIn {store : Store} {l : Location} {name : CodeText} :
    name ∈ store.namesIn l ↔ store.IsTaken (l ++ [name]) := by
  rw [namesIn, (store.order.perm l _).mem_iff, List.mem_eraseDups, List.mem_filterMap, IsTaken]
  simp only [nameIn?_eq_some, exists_eq_right]

theorem nodup_namesIn (store : Store) (l : Location) : (store.namesIn l).Nodup :=
  (store.order.perm l _).nodup_iff.2 (nodup_eraseDups _)

theorem list_eq_ok {store : Store} {directory : Path} {entries : List Path}
    (h : store.list directory = .ok entries) :
    ∃ l, store.locate directory = .ok l ∧
      entries = (store.namesIn l).map fun name => ⟨directory.root, directory.names ++ [name]⟩ := by
  unfold list at h
  cases hl : store.locate directory with
  | error fault => simp [bind, Except.bind, hl] at h
  | ok l =>
    simp only [bind, Except.bind, hl] at h
    split at h
    · exact nomatch h
    · exact ⟨l, rfl, (Except.ok.inj h).symm⟩

/-- What a path leads to is there, be it a file or a directory. -/
theorem isThere_of_any {store : Store} {path : Path} {p : Location → Bool}
    (h : (store.found? path).any p = true) : store.isThere path = true := by
  cases hFound : store.found? path with
  | none => simp [hFound] at h
  | some l => simp [isThere, hFound]

/-- A path that leads somewhere can be followed. -/
theorem refusal?_of_isThere {store : Store} {path : Path} (h : store.isThere path = true) :
    store.refusal? path = none := by
  unfold refusal?
  cases hl : store.locate path with
  | error fault => simp [isThere, found?, hl, Except.toOption] at h
  | ok l => simp

theorem refusal?_of_isDirectory {store : Store} {path : Path}
    (h : store.isDirectory path = true) : store.refusal? path = none :=
  refusal?_of_isThere (isThere_of_any h)

end Store

theorem name_concat (root : String) (names : List CodeText) (name : CodeText) :
    Path.name ⟨root, names ++ [name]⟩ = name := by
  simp [Path.name, List.getLastD_eq_getLast?]

theorem documentEntries_eq_ok {store : Store} {directory : Path} {inputs : List Path}
    (h : documentEntries store directory = .ok inputs) :
    ∃ entries, store.list directory = .ok entries ∧
      inputs = entries.filter fun entry => isDocumentName entry.name := by
  rw [documentEntries] at h
  cases hList : store.list directory with
  | error fault =>
    rw [hList] at h
    exact nomatch h
  | ok entries =>
    rw [hList] at h
    exact ⟨entries, rfl, (Except.ok.inj h).symm⟩

/-- The documents of a directory are what stands directly inside under the name of a document. -/
theorem mem_documentEntries {store : Store} {directory : Path} {inputs : List Path}
    (h : documentEntries store directory = .ok inputs) (input : Path) :
    input ∈ inputs ↔
      ∃ l name, store.locate directory = .ok l ∧ store.IsTaken (l ++ [name]) ∧
        isDocumentName name = true ∧ input = ⟨directory.root, directory.names ++ [name]⟩ := by
  obtain ⟨entries, hList, rfl⟩ := documentEntries_eq_ok h
  obtain ⟨l, hLocate, rfl⟩ := Store.list_eq_ok hList
  simp only [List.mem_filter, List.mem_map, Store.mem_namesIn]
  constructor
  · rintro ⟨⟨name, hTaken, rfl⟩, hName⟩
    rw [name_concat] at hName
    exact ⟨l, name, hLocate, hTaken, hName, rfl⟩
  · rintro ⟨l', name, hLocate', hTaken, hName, rfl⟩
    obtain rfl := Except.ok.inj (hLocate.symm.trans hLocate')
    exact ⟨⟨name, hTaken, rfl⟩, by rwa [name_concat]⟩

theorem documentEntries_nodup {store : Store} {directory : Path} {inputs : List Path}
    (h : documentEntries store directory = .ok inputs) : inputs.Nodup := by
  obtain ⟨entries, hList, rfl⟩ := documentEntries_eq_ok h
  obtain ⟨l, -, rfl⟩ := Store.list_eq_ok hList
  refine List.Pairwise.filter _ (List.Pairwise.map _ (fun a b hab hPath => hab ?_)
    (Store.nodup_namesIn _ _))
  simpa using congrArg Path.names hPath

/-! ## One file after another -/

/-- Whether a result stands for a conversion that has ended without one. -/
structure Recovered (failed : Failed) (input : Path) (c : Conversion) : Prop where
  path : c.path = input
  code : c.code = ""
  document : c.document = ""
  isValid : c.isValid = false
  differences : c.differences = []
  log : Note.spellings .info c.notes = Note.spellings .info failed.notes
  warnings : Note.spellings .warning c.notes = Note.spellings .warning failed.notes
  errors : Note.spellings .error c.notes =
    Note.spellings .error failed.notes ++ [failed.fault.message]

/-- Whether the results are those of files that are converted one after another, each from what the
one before has left. -/
inductive Batch (settings : Settings) (output : Option Path) :
    Effect → List Path → List Conversion → Effect → Prop
  | nil (effect : Effect) : Batch settings output effect [] [] effect
  | converted {before next after : Effect} {input : Path} {inputs : List Path} {c : Conversion}
    {cs : List Conversion} (h : convertFile settings before input output = (.ok c, next))
    (rest : Batch settings output next inputs cs after) :
    Batch settings output before (input :: inputs) (c :: cs) after
  | recovered {before next after : Effect} {input : Path} {inputs : List Path} {c : Conversion}
    {cs : List Conversion} {failed : Failed}
    (h : convertFile settings before input output = (.error failed, next))
    (hNext : Stopped settings before input output failed.fault next)
    (hc : Recovered failed input c) (rest : Batch settings output next inputs cs after) :
    Batch settings output before (input :: inputs) (c :: cs) after

theorem recovered_conversion (failed : Failed) (input : Path) :
    Recovered failed input (failed.conversion input) where
  path := rfl
  code := rfl
  document := rfl
  isValid := rfl
  differences := rfl
  log := by simp [Failed.conversion, Note.spellings]
  warnings := by simp [Failed.conversion, Note.spellings]
  errors := by simp [Failed.conversion, Note.spellings]

/-- Files are converted one after another, in any order in which they are given. -/
theorem batch_convertEntries (settings : Settings) (output : Option Path) (before : Effect)
    (inputs : List Path) :
    Batch settings output before inputs (convertEntries settings output before inputs).1
      (convertEntries settings output before inputs).2 := by
  induction inputs generalizing before with
  | nil => exact Batch.nil before
  | cons input inputs ih =>
    rcases hFile : convertFile settings before input output with ⟨outcome, next⟩
    cases outcome with
    | ok c =>
      have hEntry : convertEntry settings output before input = (c, next) := by
        simp [convertEntry, hFile]
      simp only [convertEntries, hEntry]
      exact Batch.converted hFile (ih next)
    | error failed =>
      have hStopped := stopped_of_convertFile hFile
      simp only [convertEntries, convertEntry_failed hFile]
      exact Batch.recovered hFile hStopped (recovered_conversion failed input) (ih next)

/-! ## Directories -/

theorem convertDirectory_of_documentEntries {settings : Settings} {before : Effect} {input : Path}
    {output : Option Path} {inputs : List Path} (hDirectory : before.store.isDirectory input = true)
    (hInputs : documentEntries before.store input = .ok inputs) :
    convertDirectory settings before input output =
      (.ok (convertEntries settings output before inputs).1,
        (convertEntries settings output before inputs).2) := by
  simp [convertDirectory, Store.refusal?_of_isDirectory hDirectory, hDirectory, hInputs]

/-- A path that the system refuses to follow, one that leads to no directory and a directory that
the system refuses to list are refused, and nothing is changed.  Otherwise there is a result for
each document in the directory, in the order in which they are listed, and the results are those of
converting the documents one after another. -/
theorem convertDirectory_batch (settings : Settings) (before : Effect) (input : Path)
    (output : Option Path) :
    (∀ fault, before.store.refusal? input = some fault →
      convertDirectory settings before input output = (.error (.refused input fault), before)) ∧
    (before.store.refusal? input = none → before.store.isDirectory input = false →
      convertDirectory settings before input output = (.error (.inputNoDirectory input), before)) ∧
    (∀ fault, before.store.isDirectory input = true → before.store.list input = .error fault →
      convertDirectory settings before input output = (.error (.refused input fault), before)) ∧
    ∀ entries, before.store.isDirectory input = true → before.store.list input = .ok entries →
      ∃ conversions after,
        convertDirectory settings before input output = (.ok conversions, after) ∧
        Batch settings output before (entries.filter fun entry => isDocumentName entry.name)
          conversions after := by
  refine ⟨?_, ?_, ?_, ?_⟩
  · intro fault hRefused
    simp [convertDirectory, hRefused]
  · intro hPassed hDirectory
    simp [convertDirectory, hPassed, hDirectory]
  · intro fault hDirectory hList
    have hPassed := Store.refusal?_of_isDirectory hDirectory
    simp [convertDirectory, hPassed, hDirectory, documentEntries, hList, Except.map]
  · intro entries hDirectory hList
    have hInputs : documentEntries before.store input =
        .ok (entries.filter fun entry => isDocumentName entry.name) := by
      rw [documentEntries, hList]
      rfl
    exact ⟨_, _, convertDirectory_of_documentEntries hDirectory hInputs,
      batch_convertEntries settings output before _⟩

/-- The order in which a store holds its locations. -/
def ListingOrder.asHeld : ListingOrder := ⟨fun _ names => names, fun _ names => List.Perm.refl names⟩

/-- A document, a file without markup and a directory, which have the names of documents, beside a
directory that cannot be listed, one that cannot be searched and one for the modules. -/
def folderStore : Store where
  here := ["work"]
  files := [(["work", "a.svg"], Utf8.encode "<svg viewBox='0 0 1 1'/>".toList),
    (["work", "B.SVG"], Utf8.encode "none".toList)]
  directories := [["work"], ["work", "c.svg"], ["work", "closed"], ["work", "shut"],
    ["work", "out"]]
  unsearchable := [["work", "shut"]]
  readFaults := [(["work", "closed"], .opening (.system 13 "Permission denied"))]
  order := .asHeld

/-- What there is before that directory is converted, and what the parser says about the file
without markup. -/
def folderEffect : Effect :=
  Effect.start folderStore fun _ =>
    "Start tag expected, '<' not found, line 1, column 1 (<string>, line 1)"

/-- The settings without a comparison of names. -/
def unvalidated : Settings := { Settings.default with validate := false }

/-- A conversion of a directory into the directory beside it. -/
def convertFolder (before : Effect) (input : Path) :
    Except ConversionFault (List Conversion) × Effect :=
  convertDirectory unvalidated before input (some ⟨"", ["out"]⟩)

/-- A path that is too long. -/
def longPath : Path := ⟨"", [String.ofList (List.replicate 64 '𝄞')]⟩

/-- A path that is too long, one through a directory that cannot be searched, one that leads
nowhere, a directory that cannot be listed, and the directory with the documents. -/
theorem convertDirectory_batch_folderStore :
    convertFolder folderEffect longPath = (.error (.refused longPath .nameTooLong), folderEffect) ∧
    convertFolder folderEffect ⟨"", ["shut", "d"]⟩ =
      (.error (.refused ⟨"", ["shut", "d"]⟩ (.system 13 "Permission denied")), folderEffect) ∧
    convertFolder folderEffect ⟨"", ["b"]⟩ =
      (.error (.inputNoDirectory ⟨"", ["b"]⟩), folderEffect) ∧
    convertFolder folderEffect ⟨"", ["closed"]⟩ =
      (.error (.refused ⟨"", ["closed"]⟩ (.system 13 "Permission denied")), folderEffect) ∧
    ∃ conversions after, convertFolder folderEffect ⟨"", []⟩ = (.ok conversions, after) ∧
      Batch unvalidated (some ⟨"", ["out"]⟩) folderEffect
        [⟨"", ["a.svg"]⟩, ⟨"", ["B.SVG"]⟩, ⟨"", ["c.svg"]⟩] conversions after := by
  have hBatch := fun input =>
    convertDirectory_batch unvalidated folderEffect input (some ⟨"", ["out"]⟩)
  refine ⟨?_, ?_, ?_, ?_, ?_⟩
  · exact (hBatch longPath).1 _ (by decide +kernel)
  · exact (hBatch ⟨"", ["shut", "d"]⟩).1 _ (by decide +kernel)
  · exact (hBatch ⟨"", ["b"]⟩).2.1 (by decide +kernel) (by decide +kernel)
  · have hClosed : folderStore.list ⟨"", ["closed"]⟩ =
        .error (.system 13 "Permission denied") := by decide +kernel
    exact (hBatch _).2.2.1 _ (by decide +kernel) hClosed
  · have hList : folderStore.list ⟨"", []⟩ =
        .ok [⟨"", ["a.svg"]⟩, ⟨"", ["B.SVG"]⟩, ⟨"", ["c.svg"]⟩, ⟨"", ["closed"]⟩, ⟨"", ["shut"]⟩,
          ⟨"", ["out"]⟩] := by decide +kernel
    exact (hBatch _).2.2.2 _ (by decide +kernel) hList

end SvgBuilder
