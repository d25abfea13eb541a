import SvgBuilder.Proofs.Component.Assembly
import SvgBuilder.Proofs.File.Batch
import SvgBuilder.Proofs.Text.Split

/-!
# Where modules are written

The module of a file is written under the name of the file with another extension.  Conversions make
no directories and no links, so where that is can be told from the store before the first
conversion.  A conversion changes at most the file there.  It holds the module then, or as much of
it as was written when writing broke off.  So at the end of a batch a file holds the last module
that was written there, or the beginning of a module.

The names of two files lead to one file if nothing but the letter case of their extension tells them
apart, and in no other way unless the extension of the modules leads through directories or there
are links.

## Main results

* `made_of_convertFile`: the module of a conversion is the one of the document in its file.
* `isSome_writtenInteger?_of_convertFile`: its size has not too many digits to be written.
* `convertFile_cases`, `convertFile_store`: what a conversion writes, and where.
* `Batch.store_at`: what a file holds behind a batch.
* `IsTarget.stem_eq`: which files of a batch have their modules in one file.
* `modules_kept`: the module of a file is there behind a batch unless a later one is written over
  it.
-/

namespace SvgBuilder

open SvgBuilder.Markup SvgBuilder.Number SvgBuilder.Text SvgBuilder.Converting

/-! ## The module of a conversion -/

/-- Whether a result is the one of a file in a store: its paths can be used, and the file holds a
document with this module. -/
structure Made (settings : Settings) (store : Store) (input : Path) (output : Option Path)
    (c : Conversion) : Prop where
  path : c.path = input
  fault : pathFault? store input output = none
  code : ∃ content root, store.read input = .ok content ∧ readDocument content = .ok root ∧
    c.code = (sourceModule settings input.name root).value

section Result

variable {settings : Settings} {before after : Effect} {input : Path} {output : Option Path}
  {c : Conversion}

/-- The result of a conversion is the one of its file in the store before it. -/
theorem made_of_convertFile (h : convertFile settings before input output = (.ok c, after)) :
    Made settings before.store input output c := by
  obtain ⟨prepared, s, t, differences, hPrepared, -, -, hPath, hCode, -⟩ := completed_of_convertFile h
  obtain ⟨root, hRead, hModule, -⟩ := hPrepared.document
  exact ⟨hPath, hPrepared.paths, prepared.content, root, hPrepared.content, hRead,
    hCode.trans hModule⟩

/-- A conversion with a result has written the size. -/
theorem isSome_writtenInteger?_of_convertFile
    (h : convertFile settings before input output = (.ok c, after)) :
    (writtenInteger? settings.defaultSize).isSome = true := by
  obtain ⟨prepared, s, t, differences, hPrepared, -⟩ := completed_of_convertFile h
  exact hPrepared.size

end Result

/-! ## Stores with the same directories -/

namespace Store

/-- Whether two stores have the same directories and links. -/
structure SameDirectories (a b : Store) : Prop where
  here : b.here = a.here
  directories : b.directories = a.directories
  links : b.links = a.links
  unsearchable : b.unsearchable = a.unsearchable

namespace SameDirectories

variable {a b c : Store}

theorem refl (a : Store) : SameDirectories a a := ⟨rfl, rfl, rfl, rfl⟩

theorem put (a : Store) (l : Location) (content : List UInt8) :
    SameDirectories a (a.put l content) := ⟨rfl, rfl, rfl, rfl⟩

theorem symm (h : SameDirectories a b) : SameDirectories b a :=
  ⟨h.here.symm, h.directories.symm, h.links.symm, h.unsearchable.symm⟩

theorem trans (h : SameDirectories a b) (h' : SameDirectories b c) : SameDirectories a c :=
  ⟨h'.here.trans h.here, h'.directories.trans h.directories, h'.links.trans h.links,
    h'.unsearchable.trans h.unsearchable⟩

theorem isDirectoryAt (h : SameDirectories a b) (l : Location) :
    b.isDirectoryAt l = a.isDirectoryAt l := by
  rw [Store.isDirectoryAt, Store.isDirectoryAt, h.directories]

/-- A name that can be followed in a store can be followed in the other one.  Why a name cannot be
followed may differ, as this depends on the files. -/
theorem enter (h : SameDirectories a b) {l m : Location} {name : CodeText}
    (hEnter : a.enter l name = .ok m) : b.enter l name = .ok m := by
  unfold Store.enter at hEnter ⊢
  by_cases hDirectory : a.isDirectoryAt l = true
  · rw [if_pos hDirectory] at hEnter
    rw [if_pos ((h.isDirectoryAt l).trans hDirectory), h.unsearchable, h.links, hEnter]
  · rw [if_neg hDirectory] at hEnter
    split at hEnter
    · exact nomatch hEnter
    · exact nomatch hEnter

theorem foldlM_enter (h : SameDirectories a b) {names : List CodeText} {l m : Location}
    (hNames : names.foldlM a.enter l = .ok m) : names.foldlM b.enter l = .ok m := by
  induction names generalizing l with
  | nil => exact hNames
  | cons name names ih =>
    rw [List.foldlM_cons] at hNames ⊢
    cases hEnter : a.enter l name with
    | error fault =>
      rw [hEnter] at hNames
      exact nomatch hNames
    | ok k =>
      rw [hEnter] at hNames
      rw [h.enter hEnter]
      exact ih hNames

theorem locate (h : SameDirectories a b) {path : Path} {l : Location}
    (hLocate : a.locate path = .ok l) : b.locate path = .ok l := by
  have hOrigin : b.origin path = a.origin path := by rw [Store.origin, Store.origin, h.here]
  unfold Store.locate at hLocate ⊢
  split at hLocate
  · exact nomatch hLocate
  · next hSize => rw [if_neg hSize, hOrigin, h.foldlM_enter hLocate]

end SameDirectories

theorem isDirectory_iff {store : Store} {path : Path} :
    store.isDirectory path = true ↔
      path.isBroken = false ∧ ∃ l, store.locate path = .ok l ∧ store.isDirectoryAt l = true := by
  unfold isDirectory found?
  cases hBroken : path.isBroken with
  | true => simp
  | false =>
    cases hLocate : store.locate path with
    | error fault => simp [Except.toOption]
    | ok l =>
      cases hDirectory : store.isDirectoryAt l with
      | true => simp [Except.toOption, hDirectory, Option.filter]
      | false =>
        have hAny : ∀ there : Bool,
            (if there then some l else none : Option Location).any store.isDirectoryAt = false := by
          intro there
          cases there with
          | true => exact hDirectory
          | false => rfl
        simp [Except.toOption, hDirectory, Option.filter, hAny]

/-! ## Where a module is written -/

/-- Whether a location is where the module of a file is written: the path of the module leads there
from a directory for the output, and there is no directory there. -/
structure IsTarget (store : Store) (extension : CodeText) (output : Option Path) (input : Path)
    (l : Location) : Prop where
  output : ∃ directory, output = some directory ∧ store.isDirectory directory = true ∧
    store.locate (outputPath input directory extension) = .ok l
  file : store.isDirectoryAt l = false

theorem IsTarget.congr {a b : Store} (h : SameDirectories a b) {extension : CodeText}
    {output : Option Path} {input : Path} {l : Location}
    (hTarget : a.IsTarget extension output input l) : b.IsTarget extension output input l := by
  obtain ⟨directory, hOutput, hDirectory, hLocate⟩ := hTarget.output
  obtain ⟨hBroken, m, hm, hmDirectory⟩ := isDirectory_iff.1 hDirectory
  refine ⟨⟨directory, hOutput, isDirectory_iff.2 ?_, h.locate hLocate⟩, ?_⟩
  · exact ⟨hBroken, m, h.locate hm, (h.isDirectoryAt m).trans hmDirectory⟩
  · rw [h.isDirectoryAt l, hTarget.file]

end Store

open Store

theorem isTarget_of_opened {store : Store} {extension : CodeText} {input directory : Path}
    {l : Location} (hPaths : pathFault? store input (some directory) = none)
    (h : store.opened (outputPath input directory extension) = .ok l) :
    store.IsTarget extension (some directory) input l := by
  obtain ⟨hLocate, hFile⟩ := eq_ok_of_opened h
  obtain ⟨-, -, -, hOutput⟩ := pathFault?_eq_none_iff.1 hPaths
  obtain ⟨-, hDirectory, -⟩ := hOutput directory rfl
  exact ⟨⟨directory, rfl, hDirectory, hLocate⟩, hFile⟩

/-! ## What a conversion writes -/

/-- Whether a content is what a result leaves in the file of its module: the module, or as much of
it as was written if there is an error about that. -/
structure Conversion.Leaves (c : Conversion) (content : List UInt8) : Prop where
  isPrefix : content <+: Utf8.encode c.code.toList
  whole : c.isUnwritten = false → content = Utf8.encode c.code.toList

theorem Conversion.anyError_of_isUnwritten {c : Conversion} (h : c.isUnwritten = true) :
    Note.anyError c.notes = true := by
  rw [Note.anyError_iff]
  intro hNone
  rw [Conversion.isUnwritten, hNone] at h
  exact absurd h (by decide)

/-- Whether a content is what the end of a conversion leaves in the file of its module. -/
def LeavesBehind (content : List UInt8) : Except Failed Conversion → Prop
  | .ok c => c.Leaves content
  | .error failed => content = [] ∧ ∃ run, failed.fault = .unencodable run

section Conversion

variable {settings : Settings} {before after : Effect} {input : Path} {output : Option Path}
  {c : Conversion}

/-- A conversion with a result leaves the store as it is, which is an error if there is a directory
for the output, or it changes the file of its module. -/
theorem convertFile_cases (h : convertFile settings before input output = (.ok c, after)) :
    (after.store = before.store ∧ (output ≠ none → Note.anyError c.notes = true)) ∨
      ∃ l content, before.store.IsTarget settings.extension output input l ∧
        after.store = before.store.put l content ∧ c.Leaves content := by
  have hCompleted := completed_of_convertFile h
  have hPaths := (made_of_convertFile h).fault
  cases output with
  | none => exact .inl ⟨hCompleted.of_printed.1, fun hOutput => absurd rfl hOutput⟩
  | some directory =>
    rcases hCompleted.of_written with
      ⟨hUnwritten, rfl | ⟨l, size, fault, hOpened, -, rfl⟩⟩ | ⟨-, -, l, hOpened, rfl⟩
    · exact .inl ⟨rfl, fun _ => Conversion.anyError_of_isUnwritten hUnwritten⟩
    · refine .inr ⟨l, _, isTarget_of_opened hPaths hOpened, rfl, List.take_prefix _ _, ?_⟩
      simp [hUnwritten]
    · exact .inr ⟨l, _, isTarget_of_opened hPaths hOpened, rfl, List.prefix_refl _, fun _ => rfl⟩

/-- A conversion without a result leaves the store as it is, or the file of its module is empty. -/
theorem Stopped.cases {fault : ConversionFault}
    (h : Stopped settings before input output fault after) :
    after.store = before.store ∨ ∃ l, before.store.IsTarget settings.extension output input l ∧
      after.store = before.store.put l [] ∧ ∃ run, fault = .unencodable run := by
  cases h with
  | unchanged => exact .inl rfl
  | emptied directory l run hPaths hOpened hLone =>
    exact .inr ⟨l, isTarget_of_opened hPaths hOpened, rfl, run, rfl⟩

/-- A conversion leaves the store as it is, or it changes the file of its module. -/
theorem convertFile_store (settings : Settings) (before : Effect) (input : Path)
    (output : Option Path) :
    (convertFile settings before input output).2.store = before.store ∨
      ∃ l content, before.store.IsTarget settings.extension output input l ∧
        (convertFile settings before input output).2.store = before.store.put l content ∧
        LeavesBehind content (convertFile settings before input output).1 := by
  rcases hFile : convertFile settings before input output with ⟨outcome, after⟩
  cases outcome with
  | ok c => exact (convertFile_cases hFile).imp And.left id
  | error failed =>
    rcases (stopped_of_convertFile hFile).cases with hStore | ⟨l, hTarget, hStore, hFault⟩
    · exact .inl hStore
    · exact .inr ⟨l, [], hTarget, hStore, rfl, hFault⟩

end Conversion

/-! ## What a batch writes -/

section Batch

variable {settings : Settings} {output : Option Path} {before after : Effect}
  {inputs : List Path} {cs : List Conversion}

theorem Batch.paths (h : Batch settings output before inputs cs after) :
    cs.map (·.path) = inputs := by
  induction h with
  | nil effect => rfl
  | converted hFile rest ih => rw [List.map_cons, ih, (made_of_convertFile hFile).path]
  | recovered hFile hNext hc rest ih => rw [List.map_cons, ih, hc.path]

/-- An empty result and an empty file belong together. -/
theorem Recovered.leaves {failed : Failed} {input : Path} {c : Conversion}
    (h : Recovered failed input c) : c.Leaves [] where
  isPrefix := List.nil_prefix
  whole := fun _ => by rw [h.code]; rfl

/-- A batch is a first conversion, which changes at most the file of its module, and then the rest.
-/
theorem Batch.cons_store {c : Conversion} (h : Batch settings output before inputs (c :: cs) after) :
    ∃ next inputs', Batch settings output next inputs' cs after ∧
      (next.store = before.store ∨
        ∃ l content, before.store.IsTarget settings.extension output c.path l ∧
          next.store = before.store.put l content ∧ c.Leaves content) := by
  cases h with
  | converted hFile rest =>
    rw [(made_of_convertFile hFile).path]
    exact ⟨_, _, rest, (convertFile_cases hFile).imp And.left id⟩
  | recovered hFile hNext hc rest =>
    rw [hc.path]
    refine ⟨_, _, rest, hNext.cases.imp id ?_⟩
    rintro ⟨l, hTarget, hStore, -⟩
    exact ⟨l, [], hTarget, hStore, hc.leaves⟩

/-- A batch makes no directories. -/
theorem Batch.sameDirectories (h : Batch settings output before inputs cs after) :
    SameDirectories before.store after.store := by
  induction cs generalizing before inputs with
  | nil =>
    cases h
    exact SameDirectories.refl _
  | cons c cs ih =>
    obtain ⟨next, inputs', hRest, hStore | ⟨l, content, -, hStore, -⟩⟩ := h.cons_store
    · rw [← hStore]
      exact ih hRest
    · have hNext := SameDirectories.put before.store l content
      rw [← hStore] at hNext
      exact hNext.trans (ih hRest)

/-- Behind a batch a file is as it was before, or it holds what a result has left in the file of its
module. -/
theorem Batch.store_at (h : Batch settings output before inputs cs after) (l : Location) :
    after.store.file? l = before.store.file? l ∨
      ∃ c ∈ cs, before.store.IsTarget settings.extension output c.path l ∧
        ∃ content, after.store.file? l = some content ∧ c.Leaves content := by
  induction cs generalizing before inputs with
  | nil =>
    cases h
    exact .inl rfl
  | cons c cs ih =>
    obtain ⟨next, inputs', hRest, hStore | ⟨k, content, hTarget, hStore, hLeaves⟩⟩ := h.cons_store
    · rcases ih hRest with hl | ⟨d, hd, hTarget, hLeft⟩
      · exact .inl (by rw [hl, hStore])
      · exact .inr ⟨d, List.mem_cons_of_mem _ hd, hStore ▸ hTarget, hLeft⟩
    · rcases ih hRest with hl | ⟨d, hd, hTarget', hLeft⟩
      · rw [hStore, file?_put] at hl
        by_cases hSame : l = k
        · subst hSame
          exact .inr ⟨c, List.mem_cons_self, hTarget, content, by simpa using hl, hLeaves⟩
        · exact .inl (by simpa [hSame] using hl)
      · rw [hStore] at hTarget'
        exact .inr ⟨d, List.mem_cons_of_mem _ hd,
          hTarget'.congr (SameDirectories.put _ _ _).symm, hLeft⟩

/-- A batch is a shorter one and then the rest. -/
theorem Batch.exists_of_append {earlier later : List Conversion}
    (h : Batch settings output before inputs (earlier ++ later) after) :
    ∃ between front back, Batch settings output before front earlier between ∧
      Batch settings output between back later after := by
  induction earlier generalizing before inputs with
  | nil => exact ⟨before, [], inputs, Batch.nil before, h⟩
  | cons c earlier ih =>
    rw [List.cons_append] at h
    cases h with
    | converted hFile rest =>
      obtain ⟨between, front, back, hFront, hBack⟩ := ih rest
      exact ⟨between, _ :: front, back, Batch.converted hFile hFront, hBack⟩
    | recovered hFile hNext hc rest =>
      obtain ⟨between, front, back, hFront, hBack⟩ := ih rest
      exact ⟨between, _ :: front, back, Batch.recovered hFile hNext hc hFront, hBack⟩

theorem Recovered.anyError {failed : Failed} {input : Path} {c : Conversion}
    (h : Recovered failed input c) : Note.anyError c.notes = true := by
  have hMem : failed.fault.message ∈ Note.spellings .error c.notes := by simp [h.errors]
  obtain ⟨n, hn, -⟩ := List.mem_map.1 hMem
  exact List.any_eq_true.2 ⟨n, List.mem_of_mem_filter hn, (List.mem_filter.1 hn).2⟩

/-- The first result of a batch that begins with one without an error is that of a file with a
document. -/
theorem Batch.head_made {c : Conversion}
    (h : Batch settings output before inputs (c :: cs) after)
    (hErrors : Note.anyError c.notes = false) :
    ∃ next inputs', convertFile settings before c.path output = (.ok c, next) ∧
      Batch settings output next inputs' cs after := by
  cases h with
  | converted hFile rest =>
    rw [← (made_of_convertFile hFile).path] at hFile
    exact ⟨_, _, hFile, rest⟩
  | recovered hFile hNext hc rest =>
    rw [hc.anyError] at hErrors
    exact nomatch hErrors

/-- A module without an error is written, and what is written there is not lost unless a later one
is written there. -/
theorem Batch.kept {directory : Path} {earlier later : List Conversion} {c : Conversion}
    (h : Batch settings (some directory) before inputs (earlier ++ c :: later) after)
    (hErrors : Note.anyError c.notes = false) :
    ∃ l, before.store.IsTarget settings.extension (some directory) c.path l ∧
      ((∀ d ∈ later, ¬ before.store.IsTarget settings.extension (some directory) d.path l) →
        after.store.file? l = some (Utf8.encode c.code.toList)) := by
  obtain ⟨between, front, back, hFront, hBack⟩ := h.exists_of_append
  obtain ⟨next, back, hFile, hLater⟩ := hBack.head_made hErrors
  have hSame := hFront.sameDirectories
  rcases convertFile_cases hFile with ⟨-, hErrors'⟩ | ⟨l, content, hTarget, hStore, hLeaves⟩
  · rw [hErrors' (Option.some_ne_none directory)] at hErrors
    exact nomatch hErrors
  · refine ⟨l, hTarget.congr hSame.symm, fun hFree => ?_⟩
    have hWritten : c.isUnwritten = false := by
      rw [← Bool.not_eq_true]
      exact fun hUnwritten => by simp [Conversion.anyError_of_isUnwritten hUnwritten] at hErrors
    have hNext : SameDirectories between.store next.store := by
      rw [hStore]
      exact SameDirectories.put _ _ _
    rcases hLater.store_at l with hl | ⟨d, hd, hTarget', -⟩
    · rw [hl, hStore, file?_put, if_pos (beq_self_eq_true l), hLeaves.whole hWritten]
    · exact absurd (hTarget'.congr (hSame.trans hNext).symm) (hFree d hd)

end Batch

/-! ## Names of modules -/

/-- The name of a file without the extension of documents. -/
def Path.stem (path : Path) : CodeText := withoutExtension path.name

/-- Whether no name in a store holds a slash, as it is with all names that are read from paths. -/
def Store.HasPlainNames (store : Store) : Prop :=
  ∀ l, store.IsTaken l → ∀ name ∈ l, '/'.toNat ∉ name.codes

theorem Path.not_mem_stem {path : Path} (h : '/'.toNat ∉ path.name.codes) :
    '/'.toNat ∉ path.stem.codes := by
  unfold Path.stem withoutExtension
  split
  · exact fun hMem => h (List.mem_of_mem_take hMem)
  · exact h

theorem splitAt_append_of_not_mem {α : Type} [DecidableEq α] {sep : α} {front s piece : List α}
    {pieces : List (List α)} (hFront : sep ∉ front) (h : splitAt sep s = piece :: pieces) :
    splitAt sep (front ++ s) = (front ++ piece) :: pieces := by
  induction front with
  | nil => exact h
  | cons c front ih =>
    obtain ⟨hc, hRest⟩ := not_or.1 (mt List.mem_cons.2 hFront)
    rw [List.cons_append, splitAt, if_neg (Ne.symm hc), ih hRest, List.cons_append]

/-- The code points of a name with an extension. -/
theorem codes_extended (stem extension : CodeText) :
    (stem ++ "." ++ extension).codes = stem.codes ++ '.'.toNat :: extension.codes := by
  simp [CodeText.codes_append, CodeText.ofString]

/-- Texts with a point are told apart by whether they are names, and which ones. -/
theorem eq_of_filter_isName_eq {s t : CodeText} (hs : '.'.toNat ∈ s.codes)
    (ht : '.'.toNat ∈ t.codes) (h : [s].filter Path.isName = [t].filter Path.isName) : s = t := by
  have hPoint : ∀ u : CodeText, '.'.toNat ∈ u.codes → Path.isName u = true ∨ u = "." := by
    intro u hu
    have hEmpty : u ≠ "" := by
      rintro rfl
      cases hu
    simpa [Path.isName, hEmpty] using ne_or_eq u "."
  rcases hPoint s hs with hName | rfl
  · rcases hPoint t ht with hName' | rfl
    · rw [List.filter_cons_of_pos hName, List.filter_cons_of_pos hName'] at h
      exact (List.cons.inj h).1
    · rw [List.filter_cons_of_pos hName] at h
      cases h
  · rcases hPoint t ht with hName' | rfl
    · rw [List.filter_cons_of_pos hName'] at h
      cases h
    · rfl

/-- Names that go on in the same way behind a point are told apart by what they lead to. -/
theorem eq_of_namesOf_eq {a b rest : CodeText} (ha : '/'.toNat ∉ a.codes)
    (hb : '/'.toNat ∉ b.codes)
    (h : Path.namesOf (a ++ "." ++ rest) = Path.namesOf (b ++ "." ++ rest)) : a = b := by
  obtain ⟨piece, pieces, hRest⟩ : ∃ piece pieces,
      splitAt '/'.toNat ('.'.toNat :: rest.codes) = ('.'.toNat :: piece) :: pieces := by
    rw [splitAt, if_neg (by decide)]
    cases hRest : splitAt '/'.toNat rest.codes with
    | nil => exact absurd hRest (splitAt_ne_nil _ _)
    | cons piece pieces => exact ⟨piece, pieces, rfl⟩
  have hNames : ∀ s : CodeText, '/'.toNat ∉ s.codes → Path.namesOf (s ++ "." ++ rest) =
      [CodeText.mk (s.codes ++ '.'.toNat :: piece)].filter Path.isName ++
        (pieces.map CodeText.mk).filter Path.isName := by
    intro s hs
    rw [Path.namesOf, codes_extended, splitAt_append_of_not_mem hs hRest, List.map_cons,
      ← List.filter_append, List.singleton_append]
  rw [hNames a ha, hNames b hb, List.append_cancel_right_eq] at h
  have hText := congrArg CodeText.codes (eq_of_filter_isName_eq (by simp) (by simp) h)
  exact CodeText.ext (List.append_cancel_right hText)

theorem outputPath_eq_iff {input other directory : Path} {extension : CodeText}
    (hInput : '/'.toNat ∉ input.name.codes) (hOther : '/'.toNat ∉ other.name.codes) :
    outputPath input directory extension = outputPath other directory extension ↔
      input.stem = other.stem := by
  constructor
  · intro h
    have hNames := congrArg Path.names h
    rw [outputPath, outputPath, Path.down_names, Path.down_names,
      List.append_cancel_left_eq] at hNames
    exact eq_of_namesOf_eq (Path.not_mem_stem hInput) (Path.not_mem_stem hOther) hNames
  · intro h
    rw [outputPath, outputPath, show withoutExtension input.name = withoutExtension other.name from h]

/-! ## Links -/

namespace Store

/-- Whether the last name of a path is a link. -/
def isLink (store : Store) (path : Path) : Bool :=
  match path.names.dropLast.foldlM store.enter (store.origin path) with
  | .ok l => (store.links.lookup (l ++ [path.name])).isSome
  | .error _ => false

/-- Whether the module of a file goes where a link leads to. -/
def isLinked (store : Store) (extension : CodeText) (output : Option Path) (input : Path) : Bool :=
  output.any fun directory => store.isLink (outputPath input directory extension)

/-- A name that is neither two points nor a link leads to something with this name. -/
theorem eq_concat_of_enter {store : Store} {l m : Location} {name : CodeText}
    (h : store.enter m name = .ok l) (hPoints : name ≠ "..")
    (hLink : store.links.lookup (m ++ [name]) = none) : l = m ++ [name] := by
  unfold enter at h
  rw [if_neg hPoints, hLink] at h
  split_ifs at h
  exact (Except.ok.inj h).symm

/-- Where names lead to from a directory that a path leads to. -/
theorem foldlM_enter_of_locate_down {store : Store} {path : Path} {s : CodeText} {l m : Location}
    (hPath : store.locate path = .ok m) (h : store.locate (path.down s) = .ok l) :
    path.names.foldlM store.enter (store.origin path) = .ok m ∧
      (Path.namesOf s).foldlM store.enter m = .ok l := by
  unfold locate at hPath h
  split at hPath
  · exact nomatch hPath
  · split at h
    · exact nomatch h
    · have hOrigin : store.origin (path.down s) = store.origin path := rfl
      rw [Path.down_names, List.foldlM_append, hOrigin, hPath] at h
      exact ⟨hPath, h⟩

variable {store : Store} {extension : CodeText} {output : Option Path} {input other : Path}
  {l : Location}

/-- Where a module is written if its extension leads through no directory and no link is there:
under its name in the directory for the output, or, if its name is two points, in place of the
directory around. -/
theorem IsTarget.eq_concat (h : store.IsTarget extension output input l)
    (hInput : '/'.toNat ∉ input.name.codes) (hExtension : '/'.toNat ∉ extension.codes)
    (hLink : store.isLinked extension output input = false) :
    ∃ directory m, output = some directory ∧ store.locate directory = .ok m ∧
      (input.stem ++ "." ++ extension = ".." ∧ l = m.dropLast ∨
        l = m ++ [input.stem ++ "." ++ extension]) := by
  obtain ⟨directory, rfl, hDirectory, hLocate⟩ := h.output
  obtain ⟨-, m, hm, hmDirectory⟩ := isDirectory_iff.1 hDirectory
  refine ⟨directory, m, rfl, hm, ?_⟩
  have hSlash : '/'.toNat ∉ (input.stem ++ "." ++ extension).codes := by
    rw [codes_extended, List.mem_append, List.mem_cons, not_or, not_or]
    exact ⟨Path.not_mem_stem hInput, by decide, hExtension⟩
  have hNames : Path.namesOf (input.stem ++ "." ++ extension) =
      [input.stem ++ "." ++ extension].filter Path.isName := by
    rw [Path.namesOf, splitAt_eq_singleton hSlash, List.map_singleton]
  obtain ⟨hFront, hEnter⟩ := foldlM_enter_of_locate_down hm hLocate
  change (Path.namesOf (input.stem ++ "." ++ extension)).foldlM store.enter m = .ok l at hEnter
  rw [hNames] at hEnter
  cases hIs : Path.isName (input.stem ++ "." ++ extension) with
  | false =>
    rw [List.filter_cons_of_neg (by simp [hIs]), List.filter_nil, List.foldlM_nil] at hEnter
    obtain rfl := Except.ok.inj hEnter
    rw [h.file] at hmDirectory
    exact nomatch hmDirectory
  | true =>
    have hPath : (outputPath input directory extension).names =
        directory.names ++ [input.stem ++ "." ++ extension] := by
      rw [outputPath, Path.down_names, show withoutExtension input.name = input.stem from rfl, hNames,
        List.filter_cons_of_pos hIs, List.filter_nil]
    have hLast : (outputPath input directory extension).name = input.stem ++ "." ++ extension := by
      rw [Path.name, hPath, List.getLastD_eq_getLast?, List.getLast?_concat]
      rfl
    have hOrigin : store.origin (outputPath input directory extension) = store.origin directory := rfl
    rw [List.filter_cons_of_pos hIs, List.filter_nil, List.foldlM_cons] at hEnter
    change store.enter m (input.stem ++ "." ++ extension) >>= pure = _ at hEnter
    rw [bind_pure] at hEnter
    rw [isLinked, Option.any_some, isLink, hPath, List.dropLast_concat, hOrigin, hFront,
      hLast] at hLink
    dsimp only at hLink
    by_cases hPoints : input.stem ++ "." ++ extension = ".."
    · rw [hPoints, enter, if_pos hmDirectory, if_pos rfl] at hEnter
      split_ifs at hEnter
      exact .inl ⟨hPoints, (Except.ok.inj hEnter).symm⟩
    · exact .inr (eq_concat_of_enter hEnter hPoints (by simpa using hLink))

/-- Two files have their modules in one file only if nothing but their extension tells them apart,
unless there are links. -/
theorem IsTarget.stem_eq (h : store.IsTarget extension output input l)
    (hOther : store.IsTarget extension output other l) (hInputName : '/'.toNat ∉ input.name.codes)
    (hOtherName : '/'.toNat ∉ other.name.codes) (hExtension : '/'.toNat ∉ extension.codes)
    (hInputLink : store.isLinked extension output input = false)
    (hOtherLink : store.isLinked extension output other = false) : input.stem = other.stem := by
  have hCancel : ∀ {a b : CodeText}, a ++ "." ++ extension = b ++ "." ++ extension → a = b := by
    intro a b hab
    have hCodes := congrArg CodeText.codes hab
    rw [codes_extended, codes_extended] at hCodes
    exact CodeText.ext (List.append_cancel_right hCodes)
  obtain ⟨directory, m, hOutput, hm, hl⟩ := h.eq_concat hInputName hExtension hInputLink
  obtain ⟨directory', m', hOutput', hm', hl'⟩ := hOther.eq_concat hOtherName hExtension hOtherLink
  obtain rfl := Option.some.inj (hOutput.symm.trans hOutput')
  obtain rfl := Except.ok.inj (hm.symm.trans hm')
  have hLength : ∀ name : CodeText, m.dropLast ≠ m ++ [name] := by
    intro name hEq
    have hLengths := congrArg List.length hEq
    rw [List.length_dropLast, List.length_append, List.length_singleton] at hLengths
    omega
  rcases hl with ⟨hPoints, hl⟩ | hl
  · rcases hl' with ⟨hPoints', -⟩ | hl'
    · exact hCancel (hPoints.trans hPoints'.symm)
    · exact absurd (hl.symm.trans hl') (hLength _)
  · rcases hl' with ⟨-, hl'⟩ | hl'
    · exact absurd (hl'.symm.trans hl) (hLength _)
    · exact hCancel (by simpa using hl.symm.trans hl')

end Store

/-! ## The modules of a directory -/

/-- Whether a module declares an object of this name. -/
def Declares (code name : String) : Prop :=
  ∃ front rest, code = front ++ "\nobject " ++ name ++ ":\n" ++ rest

theorem declares_assemble (settings : Settings) (name sourceName : String) (root : Element) :
    Declares (assemble settings name sourceName root).value name := by
  obtain ⟨rest, hRest⟩ : ∃ rest, opening settings name sourceName root =
      joined "\n" [header settings, "", documentation root] ++ "\n" ++ ("object " ++ name ++ ":") ++
        ("\n" ++ rest) := by
    rw [opening, openingLines, joined_cons, joined_cons]
    simp only [List.map_cons, String.join_cons, String.append_assoc]
    exact ⟨_, rfl⟩
  have hJoin : "\nobject " = "\n" ++ "object " := by decide
  have hColon : ":\n" = ":" ++ "\n" := by decide
  rw [value_assemble, hRest]
  refine ⟨joined "\n" [header settings, "", documentation root],
    rest ++ rootCall (rootItems settings root).value ++ closing settings root, ?_⟩
  rw [hJoin, hColon]
  simp only [String.append_assoc]

theorem Made.declares {settings : Settings} {store : Store} {input : Path} {output : Option Path}
    {c : Conversion} (h : Made settings store input output c) :
    Declares c.code (moduleName input.name).shown := by
  obtain ⟨content, root, -, -, hCode⟩ := h.code
  rw [hCode]
  exact declares_assemble settings _ _ root

theorem Declares.mem_lineFeed {code name : String} (h : Declares code name) :
    '\n' ∈ code.toList := by
  obtain ⟨front, rest, rfl⟩ := h
  simp

/-- The results of a directory are those of the documents in it. -/
theorem batch_of_convertDirectory {settings : Settings} {before after : Effect} {input : Path}
    {output : Option Path} {conversions : List Conversion}
    (h : convertDirectory settings before input output = (.ok conversions, after)) :
    documentEntries before.store input = .ok (conversions.map (·.path)) ∧
      Batch settings output before (conversions.map (·.path)) conversions after := by
  cases hInputs : documentEntries before.store input with
  | error fault =>
    unfold convertDirectory at h
    rw [hInputs] at h
    split at h
    · exact nomatch congrArg Prod.fst h
    · split at h
      · exact nomatch congrArg Prod.fst h
      · exact nomatch congrArg Prod.fst h
  | ok inputs =>
    have hBatch := batch_convertEntries settings output before inputs
    unfold convertDirectory at h
    rw [hInputs] at h
    split at h
    · exact nomatch congrArg Prod.fst h
    · split at h
      · obtain ⟨hConversions, hAfter⟩ := Prod.mk.inj h
        rw [Except.ok.inj hConversions, hAfter] at hBatch
        rw [hBatch.paths]
        exact ⟨rfl, hBatch⟩
      · exact nomatch congrArg Prod.fst h

/-- The module of a file without an error is in the file of its path behind the batch, unless that
is also where the module of a later file goes.  Different paths may lead to one file, as links do;
but with an extension that leads through no directory, and without links where modules go, this is
so only for files that nothing but the letter case of their extension tells apart; these have the
same path for their modules.  A module is named after its file, and the names agree if what is in
front of the extensions agrees up to the upper case of its first letter. -/
theorem modules_kept {settings : Settings} {before after : Effect} {input directory : Path}
    {conversions : List Conversion}
    (h : convertDirectory settings before input (some directory) = (.ok conversions, after)) :
    documentEntries before.store input = .ok (conversions.map (·.path)) ∧
    (∀ earlier c later, conversions = earlier ++ c :: later → Note.anyError c.notes = false →
      Declares c.code (moduleName c.path.name).shown ∧
      ∃ l, before.store.locate (outputPath c.path directory settings.extension) = .ok l ∧
        ((∀ d ∈ later,
            before.store.locate (outputPath d.path directory settings.extension) ≠ .ok l) →
          after.store.file? l = some (Utf8.encode c.code.toList)) ∧
        (before.store.HasPlainNames → '/'.toNat ∉ settings.extension.codes →
          (∀ d ∈ c :: later,
            before.store.isLink (outputPath d.path directory settings.extension) = false) →
          (∀ d ∈ later, d.path.stem ≠ c.path.stem) →
          after.store.file? l = some (Utf8.encode c.code.toList))) ∧
    (before.store.HasPlainNames → ∀ c ∈ conversions, ∀ d ∈ conversions,
      (outputPath c.path directory settings.extension =
        outputPath d.path directory settings.extension ↔ c.path.stem = d.path.stem) ∧
      (moduleName c.path.name = moduleName d.path.name ↔
        capitalized c.path.stem = capitalized d.path.stem)) := by
  obtain ⟨hEntries, hBatch⟩ := batch_of_convertDirectory h
  have hPlain : before.store.HasPlainNames →
      ∀ c ∈ conversions, '/'.toNat ∉ c.path.name.codes := by
    intro hNames c hc
    obtain ⟨l, name, -, hTaken, -, hPath⟩ :=
      (mem_documentEntries hEntries c.path).1 (List.mem_map_of_mem hc)
    rw [hPath, name_concat]
    exact hNames _ hTaken name (by simp)
  refine ⟨hEntries, ?_, ?_⟩
  · intro earlier c later hConversions hErrors
    subst hConversions
    refine ⟨?_, ?_⟩
    · obtain ⟨between, front, back, -, hBack⟩ := hBatch.exists_of_append
      obtain ⟨next, back, hFile, -⟩ := hBack.head_made hErrors
      exact (made_of_convertFile hFile).declares
    · obtain ⟨l, hTarget, hKept⟩ := hBatch.kept hErrors
      obtain ⟨directory', hOutput, -, hLocate⟩ := hTarget.output
      obtain rfl := Option.some.inj hOutput
      refine ⟨l, hLocate, fun hFree => hKept ?_, fun hNames hExtension hLinks hFree => hKept ?_⟩
      · intro d hd hTarget'
        obtain ⟨directory', hOutput', -, hLocate'⟩ := hTarget'.output
        obtain rfl := Option.some.inj hOutput'
        exact hFree d hd hLocate'
      · intro d hd hTarget'
        exact hFree d hd (hTarget'.stem_eq hTarget (hPlain hNames d (by simp [hd]))
          (hPlain hNames c (by simp)) hExtension (hLinks d (by simp [hd])) (hLinks c (by simp)))
  · intro hNames c hc d hd
    exact ⟨outputPath_eq_iff (hPlain hNames c hc) (hPlain hNames d hd), Iff.rfl⟩

/-- Two documents that only the letter case of their extension tells apart, another document, and a
directory for the modules. -/
def twinStore : Store where
  here := ["work"]
  files := [(["work", "in", "a.SVG"], Utf8.encode "<svg viewBox='0 0 1 1'><g/></svg>".toList),
    (["work", "in", "a.svg"], Utf8.encode "<svg viewBox='0 0 2 2'/>".toList),
    (["work", "in", "b.svg"], Utf8.encode "<svg viewBox='0 0 3 3'/>".toList)]
  directories := [["work"], ["work", "in"], ["work", "out"]]
  order := .asHeld

theorem hasPlainNames_twinStore : twinStore.HasPlainNames := by
  have hAll : ∀ l ∈ twinStore.locations, ∀ name ∈ l, '/'.toNat ∉ name.codes := by decide +kernel
  exact hAll

/-- The documents of that store. -/
def twinInputs : List Path :=
  [⟨"", ["in", "a.SVG"]⟩, ⟨"", ["in", "a.svg"]⟩, ⟨"", ["in", "b.svg"]⟩]

theorem documentEntries_twinStore : documentEntries twinStore ⟨"", ["in"]⟩ = .ok twinInputs := by
  decide +kernel

/-- The results for these documents: there are three of them without errors, and the modules of the
twins differ. -/
theorem exists_convertFolder_twinStore :
    ∃ a b c after, convertFolder (Effect.start twinStore) ⟨"", ["in"]⟩ = (.ok [a, b, c], after) ∧
      a.path = ⟨"", ["in", "a.SVG"]⟩ ∧ b.path = ⟨"", ["in", "a.svg"]⟩ ∧
      c.path = ⟨"", ["in", "b.svg"]⟩ ∧ Note.anyError a.notes = false ∧
      Note.anyError b.notes = false ∧ a.code ≠ b.code := by
  have hFolder : convertFolder (Effect.start twinStore) ⟨"", ["in"]⟩ = _ :=
    convertDirectory_of_documentEntries (by decide +kernel) documentEntries_twinStore
  have hPaths : documentEntries twinStore ⟨"", ["in"]⟩ = .ok _ :=
    (batch_of_convertDirectory hFolder).1
  rw [documentEntries_twinStore] at hPaths
  obtain ⟨hErrors, hCodes⟩ :
      (convertEntries unvalidated (some ⟨"", ["out"]⟩) (Effect.start twinStore)
          twinInputs).1.map (fun c => Note.anyError c.notes) = [false, false, false] ∧
        ((convertEntries unvalidated (some ⟨"", ["out"]⟩) (Effect.start twinStore)
          twinInputs).1.map (·.code)).Nodup := by decide +kernel
  generalize convertEntries _ _ _ _ = results at hErrors hCodes hFolder hPaths
  obtain ⟨conversions, after⟩ := results
  obtain ⟨a, conversions, rfl, ha, hErrors⟩ := List.map_eq_cons_iff.1 hErrors
  obtain ⟨b, conversions, rfl, hb, hErrors⟩ := List.map_eq_cons_iff.1 hErrors
  obtain ⟨c, conversions, rfl, -, hErrors⟩ := List.map_eq_cons_iff.1 hErrors
  obtain rfl := List.map_eq_nil_iff.1 hErrors
  obtain ⟨hPathA, hPathB, hPathC⟩ : _ = a.path ∧ _ = b.path ∧ _ = c.path := by
    simpa [twinInputs] using hPaths
  have hDiffer : a.code ≠ b.code := by
    simp only [List.map_cons, List.nodup_cons, List.mem_cons, not_or] at hCodes
    exact hCodes.1.1
  exact ⟨a, b, c, after, hFolder, hPathA.symm, hPathB.symm, hPathC.symm, ha, hb, hDiffer⟩

/-- The module of the second twin is there at the end, as the third document has another name. -/
theorem modules_kept_twinStore :
    ∃ a b c after, convertFolder (Effect.start twinStore) ⟨"", ["in"]⟩ = (.ok [a, b, c], after) ∧
      Declares b.code "A" ∧
      after.store.file? ["work", "out", "a.scala"] = some (Utf8.encode b.code.toList) := by
  obtain ⟨a, b, c, after, hFolder, -, hb, hc, -, hErrors, -⟩ := exists_convertFolder_twinStore
  obtain ⟨-, hKept, -⟩ := modules_kept hFolder
  obtain ⟨hDeclares, l, hLocate, -, hContent⟩ := hKept [a] b [c] rfl hErrors
  rw [hb] at hDeclares hLocate
  have hName : (moduleName (Path.name ⟨"", ["in", "a.svg"]⟩)).shown = "A" := by decide +kernel
  have hTarget : twinStore.locate (outputPath ⟨"", ["in", "a.svg"]⟩ ⟨"", ["out"]⟩ "scala") =
      .ok ["work", "out", "a.scala"] := by decide +kernel
  obtain rfl := Except.ok.inj (hLocate.symm.trans hTarget)
  refine ⟨a, b, c, after, hFolder, hName ▸ hDeclares, ?_⟩
  refine hContent hasPlainNames_twinStore (by decide) (fun d hd => ?_) fun d hd => ?_
  · rcases List.mem_pair.1 hd with rfl | rfl
    · rw [hb]
      decide +kernel
    · rw [hc]
      decide +kernel
  · rw [List.mem_singleton.1 hd, hb, hc]
    decide +kernel

/-- Two documents of one directory whose modules have no errors, but one name and one file, which
does not hold the first of them at the end. -/
theorem first_twin_lost :
    ∃ a b c after, convertFolder (Effect.start twinStore) ⟨"", ["in"]⟩ = (.ok [a, b, c], after) ∧
      Note.anyError a.notes = false ∧ a.path ≠ b.path ∧
      outputPath a.path ⟨"", ["out"]⟩ "scala" = outputPath b.path ⟨"", ["out"]⟩ "scala" ∧
      moduleName a.path.name = moduleName b.path.name ∧
      twinStore.locate (outputPath a.path ⟨"", ["out"]⟩ "scala") =
        .ok ["work", "out", "a.scala"] ∧
      after.store.file? ["work", "out", "a.scala"] ≠ some (Utf8.encode a.code.toList) := by
  obtain ⟨a, b, c, after, hFolder, ha, hb, hc, hErrorsA, hErrors, hCodes⟩ :=
    exists_convertFolder_twinStore
  have hLocate : twinStore.locate (outputPath a.path ⟨"", ["out"]⟩ "scala") =
      .ok ["work", "out", "a.scala"] := by
    rw [ha]
    decide +kernel
  refine ⟨a, b, c, after, hFolder, hErrorsA, ?_, ?_, ?_, hLocate, ?_⟩
  · rw [ha, hb]
    decide +kernel
  · rw [ha, hb]
    decide +kernel
  · rw [ha, hb]
    decide +kernel
  · intro hFirst
    have hBatch : Batch _ _ _ _ ([a] ++ b :: [c]) after := (batch_of_convertDirectory hFolder).2
    obtain ⟨l, hTarget, hContent⟩ := hBatch.kept hErrors
    obtain ⟨directory, hOutput, -, hSecond⟩ := hTarget.output
    obtain rfl := Option.some.inj hOutput
    have hPath : outputPath b.path ⟨"", ["out"]⟩ "scala" =
        outputPath a.path ⟨"", ["out"]⟩ "scala" := by
      rw [ha, hb]
      decide +kernel
    obtain rfl : l = (["work", "out", "a.scala"] : Location) := by
      have hSame := hPath ▸ hSecond
      exact Except.ok.inj (hSame.symm.trans hLocate)
    have hThird : twinStore.locate (outputPath ⟨"", ["in", "b.svg"]⟩ ⟨"", ["out"]⟩ "scala") =
        .ok ["work", "out", "b.scala"] := by decide +kernel
    have hKept := hContent fun d hd hTarget' => by
      obtain ⟨directory, hOutput', -, hOther⟩ := hTarget'.output
      obtain rfl := Option.some.inj hOutput'
      rw [List.mem_singleton.1 hd, hc] at hOther
      have hSame : (["work", "out", "b.scala"] : Location) = ["work", "out", "a.scala"] :=
        Except.ok.inj (hThird.symm.trans hOther)
      exact absurd hSame (by decide)
    rw [hKept, Option.some.injEq, Utf8.encode_inj, String.toList_inj] at hFirst
    exact hCodes hFirst.symm

end SvgBuilder
