import SvgBuilder.Proofs.Component.Settings
import SvgBuilder.Proofs.File.Outputs

/-!
# What happens to sources

Nothing keeps a module from being written over a document: a path for a module is not compared with
the paths of the documents.  Whatever is changed holds a module then, or the beginning of one if
writing it broke off.  An extension that is read from a configuration is not empty and does not
begin with a point, so the file of a module has this extension, unless a link leads elsewhere; if
that is not the extension of documents, no document is lost.

## Main results

* `IsTarget.exists_name`: the name of the file of a module ends in the extension.
* `sources_kept`: what conversions do to documents.
-/

namespace SvgBuilder

open SvgBuilder.Markup SvgBuilder.Text SvgBuilder.Yaml

/-! ## Extensions -/

namespace IsExtension

variable {extension : CodeText} (h : IsExtension extension)
include h

/-- What ends in an extension is neither one point nor two. -/
theorem ne_points (front : List Nat) :
    front ++ '.'.toNat :: extension.codes ≠ ['.'.toNat] ∧
      front ++ '.'.toNat :: extension.codes ≠ ['.'.toNat, '.'.toNat] := by
  have hNil : extension.codes ≠ [] := fun he => h.ne_empty (CodeText.ext he)
  obtain ⟨code, rest, hText⟩ := List.exists_cons_of_ne_nil hNil
  have hPoint : code ≠ 46 := by
    rintro rfl
    exact h.ne_point (by rw [hText]; rfl)
  rw [hText]
  rcases front with _ | ⟨a, _ | ⟨b, front⟩⟩ <;> simp [hPoint]

end IsExtension

/-! ## Names of files with modules -/

theorem exists_splitAt_append {α : Type} [DecidableEq α] {sep : α} {last : List α} (h : sep ∉ last)
    (s : List α) : ∃ pieces front, splitAt sep (s ++ last) = pieces ++ [front ++ last] := by
  induction s with
  | nil => exact ⟨[], [], splitAt_eq_singleton h⟩
  | cons c s ih =>
    obtain ⟨pieces, front, hSplit⟩ := ih
    rw [List.cons_append, splitAt, hSplit]
    split
    · exact ⟨[] :: pieces, front, rfl⟩
    · cases pieces with
      | nil => exact ⟨[], c :: front, rfl⟩
      | cons piece pieces => exact ⟨(c :: piece) :: pieces, front, rfl⟩

namespace Store

/-- A path whose last name is neither two points nor a link leads to something with this name. -/
theorem getLast?_of_locate {store : Store} {path : Path} {names : List CodeText} {name : CodeText}
    {l : Location} (hNames : path.names = names ++ [name]) (hName : name ≠ "..")
    (hLink : store.isLink path = false) (h : store.locate path = .ok l) :
    l.getLast? = some name := by
  have hLast : path.name = name := by
    rw [Path.name, hNames, List.getLastD_eq_getLast?, List.getLast?_concat]
    rfl
  rw [isLink, hNames, List.dropLast_concat, hLast] at hLink
  unfold locate at h
  split at h
  · cases h
  · rw [hNames, List.foldlM_append] at h
    cases hFront : names.foldlM store.enter (store.origin path) with
    | error fault =>
      rw [hFront] at h
      cases h
    | ok m =>
      rw [hFront] at h hLink
      change store.enter m name >>= pure = _ at h
      rw [bind_pure] at h
      rw [eq_concat_of_enter h hName (by simpa using hLink), List.getLast?_concat]

/-- The file of a module has a name that ends in the extension, if no link is there. -/
theorem IsTarget.exists_name {store : Store} {extension : CodeText} {output : Option Path}
    {input : Path} {l : Location} (h : store.IsTarget extension output input l)
    (hExtension : IsExtension extension) (hSlash : '/'.toNat ∉ extension.codes)
    (hLink : store.isLinked extension output input = false) :
    ∃ front, l.getLast? = some (front ++ "." ++ extension) := by
  obtain ⟨directory, rfl, -, hLocate⟩ := h.output
  obtain ⟨pieces, front, hSplit⟩ := exists_splitAt_append
    (mt List.mem_cons.1 (not_or.2 ⟨by decide, hSlash⟩) : '/'.toNat ∉ '.'.toNat :: extension.codes)
    (withoutExtension input.name).codes
  obtain ⟨hPoint, hPoints⟩ := hExtension.ne_points front
  have hLast : CodeText.mk (front ++ '.'.toNat :: extension.codes) = ⟨front⟩ ++ "." ++ extension :=
    CodeText.ext (codes_extended ⟨front⟩ extension).symm
  have hName : Path.isName ⟨front ++ '.'.toNat :: extension.codes⟩ = true := by
    rw [Path.isName, Bool.and_eq_true, decide_eq_true_iff, decide_eq_true_iff]
    refine ⟨fun hEmpty => ?_, fun hSingle => hPoint (congrArg CodeText.codes hSingle)⟩
    have hNil : front ++ '.'.toNat :: extension.codes = [] := congrArg CodeText.codes hEmpty
    exact List.append_ne_nil_of_right_ne_nil front (List.cons_ne_nil _ _) hNil
  have hNames : (outputPath input directory extension).names =
      directory.names ++ (pieces.map CodeText.mk).filter Path.isName ++
        [⟨front ++ '.'.toNat :: extension.codes⟩] := by
    rw [outputPath, Path.down_names, Path.namesOf, codes_extended, hSplit, List.map_append,
      List.filter_append, List.map_singleton, List.filter_cons_of_pos hName, List.filter_nil,
      List.append_assoc]
  have hNotPoints : CodeText.mk (front ++ '.'.toNat :: extension.codes) ≠ ".." :=
    fun hEq => hPoints (congrArg CodeText.codes hEq)
  rw [isLinked, Option.any_some] at hLink
  exact ⟨⟨front⟩, hLast ▸ getLast?_of_locate hNames hNotPoints hLink hLocate⟩

end Store

/-- A text that ends in a point and an extension has the extension of documents only if this is it.
-/
theorem isDocumentName_of_append {front extension : CodeText}
    (h : isDocumentName (front ++ "." ++ extension) = true) :
    isDocumentName ("." ++ extension) = true := by
  have hShort : (CodeText.ofString "." ++ extension).codes.reverse =
      extension.codes.reverse ++ ['.'.toNat] := by
    simp [CodeText.codes_append, CodeText.ofString]
  rw [isDocumentName, codes_extended, List.reverse_append, List.reverse_cons, List.append_assoc,
    List.singleton_append] at h
  rw [isDocumentName, hShort]
  have hPoint : CodeText.codeChar 46 = '.' := CodeText.codeChar_toNat '.'
  generalize extension.codes.reverse = codes at h ⊢
  rcases codes with _ | ⟨a, _ | ⟨b, _ | ⟨c, codes⟩⟩⟩
  · simp [hasReversedExtension, reversedExtension, hPoint] at h
  · simp [hasReversedExtension, reversedExtension, hPoint] at h
  · simp [hasReversedExtension, reversedExtension, hPoint] at h
  · cases codes <;> simpa [hasReversedExtension] using h

/-! ## What conversions do to documents -/

section Conversion

variable (settings : Settings) (before : Effect) (input : Path) (output : Option Path) (l : Location)

theorem convertFile_store_at :
    (convertFile settings before input output).2.store.file? l = before.store.file? l ∨
      before.store.IsTarget settings.extension output input l ∧
        ∃ content, (convertFile settings before input output).2.store.file? l = some content ∧
          LeavesBehind content (convertFile settings before input output).1 := by
  rcases convertFile_store settings before input output with
    hStore | ⟨k, content, hTarget, hStore, hLeft⟩
  · exact .inl (by rw [hStore])
  · by_cases hl : l = k
    · subst hl
      exact .inr ⟨hTarget, content, by simp [hStore, Store.file?_put], hLeft⟩
    · exact .inl (by simp [hStore, Store.file?_put, hl])

theorem eq_of_convertDirectory_error {fault : ConversionFault} {after : Effect}
    (h : convertDirectory settings before input output = (.error fault, after)) :
    after = before := by
  unfold convertDirectory at h
  split at h
  · exact (Prod.mk.inj h).2.symm
  · split at h
    · split at h
      · exact nomatch congrArg Prod.fst h
      · exact (Prod.mk.inj h).2.symm
    · exact (Prod.mk.inj h).2.symm

theorem convertDirectory_store_at :
    (convertDirectory settings before input output).2.store.file? l = before.store.file? l ∨
      ∃ conversions after,
        convertDirectory settings before input output = (.ok conversions, after) ∧
        ∃ c ∈ conversions, before.store.IsTarget settings.extension output c.path l ∧
          ∃ content, after.store.file? l = some content ∧ c.Leaves content := by
  rcases hDirectory : convertDirectory settings before input output with ⟨outcome, after⟩
  cases outcome with
  | error fault =>
    exact .inl (by rw [eq_of_convertDirectory_error settings before input output hDirectory])
  | ok conversions =>
    rcases (batch_of_convertDirectory hDirectory).2.store_at l with hl | ⟨c, hc, hTarget, hLeft⟩
    · exact .inl hl
    · exact .inr ⟨conversions, after, rfl, c, hc, hTarget, hLeft⟩

end Conversion

/-- A document that is no link is not where the module of a file goes if the extension of modules is
read from a mapping, leads through no directory and is not the one of documents, and no link is
there. -/
theorem not_isTarget_of_isDocumentName {shared : Collections} {entries : List (Value × Value)}
    {settings : Settings} (hSettings : Settings.ofEntries shared entries = .ok settings)
    (hSlash : '/'.toNat ∉ settings.extension.codes)
    (hExtension : isDocumentName ("." ++ settings.extension) = false) {store : Store}
    {source : Path} {l : Location} (hSource : isDocumentName source.name = true)
    (hLocate : store.locate source = .ok l) (hSourceLink : store.isLink source = false)
    {output : Option Path} {input : Path}
    (hLink : store.isLinked settings.extension output input = false) :
    ¬ store.IsTarget settings.extension output input l := by
  intro hTarget
  obtain ⟨front, hFront⟩ :=
    hTarget.exists_name (IsExtension.of_ofEntries hSettings) hSlash hLink
  have hNil : source.names ≠ [] := by
    intro hNil
    rw [Path.name, hNil] at hSource
    cases hSource
  have hNames : source.names = source.names.dropLast ++ [source.name] := by
    rw [Path.name, List.getLastD_eq_getLast?, List.getLast?_eq_some_getLast hNil]
    exact (List.dropLast_append_getLast hNil).symm
  have hPoints : source.name ≠ ".." := by
    intro hPoints
    rw [hPoints] at hSource
    cases hSource
  rw [Store.getLast?_of_locate hNames hPoints hSourceLink hLocate, Option.some.injEq] at hFront
  rw [hFront] at hSource
  rw [isDocumentName_of_append hSource] at hExtension
  cases hExtension

/-- Conversions leave a file as it is, or it is where the module of one of their files goes and
holds that module, or the beginning of it if writing it broke off; it is empty if the module cannot
be written for its code points.  None of this happens to a document if the extension of modules is
read from a mapping, leads through no directory and is not the one of documents, and neither the
document nor what is in the place of a module is a link. -/
theorem sources_kept (settings : Settings) (before : Effect) (input : Path) (output : Option Path) :
    (∀ l, (convertFile settings before input output).2.store.file? l = before.store.file? l ∨
      before.store.IsTarget settings.extension output input l ∧
        ∃ content, (convertFile settings before input output).2.store.file? l = some content ∧
          LeavesBehind content (convertFile settings before input output).1) ∧
    (∀ l, (convertDirectory settings before input output).2.store.file? l = before.store.file? l ∨
      ∃ conversions after,
        convertDirectory settings before input output = (.ok conversions, after) ∧
        ∃ c ∈ conversions, before.store.IsTarget settings.extension output c.path l ∧
          ∃ content, after.store.file? l = some content ∧ c.Leaves content) ∧
    ∀ shared entries, Settings.ofEntries shared entries = .ok settings →
      '/'.toNat ∉ settings.extension.codes → isDocumentName ("." ++ settings.extension) = false →
      ∀ source l, isDocumentName source.name = true → before.store.locate source = .ok l →
        before.store.isLink source = false →
        (before.store.isLinked settings.extension output input = false →
          (convertFile settings before input output).2.store.file? l = before.store.file? l) ∧
        ((∀ inputs, documentEntries before.store input = .ok inputs → ∀ entry ∈ inputs,
            before.store.isLinked settings.extension output entry = false) →
          (convertDirectory settings before input output).2.store.file? l =
            before.store.file? l) := by
  refine ⟨convertFile_store_at settings before input output,
    convertDirectory_store_at settings before input output, ?_⟩
  intro shared entries hSettings hSlash hExtension source l hSource hLocate hSourceLink
  have hFree {entry : Path} (hLink : before.store.isLinked settings.extension output entry = false) :=
    not_isTarget_of_isDocumentName hSettings hSlash hExtension hSource hLocate hSourceLink hLink
  constructor
  · intro hLink
    rcases convertFile_store_at settings before input output l with hl | ⟨hTarget, -⟩
    · exact hl
    · exact absurd hTarget (hFree hLink)
  · intro hLinks
    rcases convertDirectory_store_at settings before input output l with
      hl | ⟨conversions, after, hDirectory, c, hc, hTarget, -⟩
    · exact hl
    · have hEntries := (batch_of_convertDirectory hDirectory).1
      exact absurd hTarget (hFree (hLinks _ hEntries c.path (List.mem_map_of_mem hc)))

/-- The twins are kept by a conversion of the first one and by one of their directory. -/
theorem sources_kept_twinStore :
    (convertFile unvalidated (Effect.start twinStore) ⟨"", ["in", "a.SVG"]⟩
        (some ⟨"", ["out"]⟩)).2.store.file? ["work", "in", "a.SVG"] =
      twinStore.file? ["work", "in", "a.SVG"] ∧
      (convertFolder (Effect.start twinStore) ⟨"", ["in"]⟩).2.store.file? ["work", "in", "a.svg"] =
        twinStore.file? ["work", "in", "a.svg"] := by
  have hSettings : Settings.ofEntries #[] [(.text "validate", .truth false)] = .ok unvalidated := rfl
  have hKept := fun input => (sources_kept unvalidated (Effect.start twinStore) input
    (some ⟨"", ["out"]⟩)).2.2 #[] [(.text "validate", .truth false)] hSettings (by decide +kernel)
    (by decide +kernel)
  constructor
  · exact (hKept _ ⟨"", ["in", "a.SVG"]⟩ _ (by decide +kernel) (by decide +kernel)
      (by decide +kernel)).1 (by decide +kernel)
  · unfold convertFolder
    refine (hKept _ ⟨"", ["in", "a.svg"]⟩ _ (by decide +kernel) (by decide +kernel)
      (by decide +kernel)).2 fun inputs hInputs => ?_
    obtain rfl := Except.ok.inj (documentEntries_twinStore.symm.trans hInputs)
    decide +kernel

/-- Settings where modules have the extension of documents. -/
def overwriting : Settings := { unvalidated with extension := "svg" }

/-- These settings are accepted, and then a document that is converted into its own directory is
lost. -/
theorem source_overwritten :
    Settings.ofEntries #[] [(.text "target", .mapping [(.text "extension", .text "svg")]),
      (.text "validate", .truth false)] = .ok overwriting ∧
    ∃ c after, convertFile overwriting (Effect.start workStore) ⟨"", ["a.svg"]⟩ (some ⟨"", []⟩) =
        (.ok c, after) ∧
      after.store.file? ["work", "a.svg"] ≠ workStore.file? ["work", "a.svg"] := by
  refine ⟨rfl, ?_⟩
  obtain ⟨c, after, hFile, hWritten⟩ := exists_of_isConverted
    (by decide +kernel : isConverted (convertFile overwriting (Effect.start workStore)
      ⟨"", ["a.svg"]⟩ (some ⟨"", []⟩)) = true)
  refine ⟨c, after, hFile, fun hSame => ?_⟩
  rcases (completed_of_convertFile hFile).of_written with ⟨hUnwritten, -⟩ | ⟨-, -, l, hOpened, rfl⟩
  · rw [hWritten] at hUnwritten
    exact nomatch hUnwritten
  · have hTarget : workStore.opened (outputPath ⟨"", ["a.svg"]⟩ ⟨"", []⟩ "svg") =
        .ok ["work", "a.svg"] := by decide +kernel
    obtain rfl := Except.ok.inj (hOpened.symm.trans hTarget)
    -- The module has several lines, and the document has one.
    have hBreak := (made_of_convertFile hFile).declares.mem_lineFeed
    have hDocument : c.code.toList = "<svg viewBox='0 0 1 1'/>".toList := by
      have hContent : workStore.file? ["work", "a.svg"] =
          some (Utf8.encode "<svg viewBox='0 0 1 1'/>".toList) := by decide +kernel
      rw [Store.file?_put, if_pos (beq_self_eq_true _), hContent, Option.some.injEq,
        Utf8.encode_inj] at hSame
      exact hSame
    rw [hDocument] at hBreak
    exact absurd hBreak (by decide)

end SvgBuilder
