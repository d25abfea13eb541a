import Mathlib.Data.List.Forall2
import SvgBuilder.Proofs.Builder.Rendering
import SvgBuilder.Proofs.Diagnostic
import SvgBuilder.Proofs.Text.Split

/-!
# Inline styles, segment by segment

What is read from a style is read from its segments one by one.  A segment that is not blank is a
declaration or is reported, and what one segment is does not depend on the others.  So styles are
read as the parts that they are put together from.

Keys and values hold neither colons nor semicolons and have no blanks at their ends.  Written with a
colon between them and semicolons between the declarations they are read back, and so are the
literals in the statement of the style.

## Main results

* `gives_readSegment`: what is read from one segment.
* `read_append`: a semicolon may stand between any two styles.
* `read_written`: declarations that are written are read back.
* `read_accounts_for_segments`: what is read from a style as a whole.
-/

namespace SvgBuilder.Style

open SvgBuilder.Text SvgBuilder.Source

/-! ## Segments -/

/-- Whether a segment is a declaration of a key and a value: they stand before and behind its only
colon, and neither is blank. -/
structure Declares (segment key value : List Char) : Prop where
  text : segment = key ++ ':' :: value
  key_colon : ':' ∉ key
  value_colon : ':' ∉ value
  key_filled : trim key ≠ []
  value_filled : trim value ≠ []

/-- The report about a segment that is no declaration. -/
def segmentWarning (segment : List Char) : Note :=
  ⟨.warning, ("Invalid style declaration: " ++ String.ofList (trim segment) : String)⟩

/-- What a segment gives: declarations and notes. -/
inductive Gives (segment : List Char) : List (String × String) → List Note → Prop
  | blank (h : ∀ c ∈ segment, isBlank c = true) : Gives segment [] []
  | declaration {key value : List Char} (h : Declares segment key value) :
      Gives segment [(String.ofList (trim key), String.ofList (trim value))] []
  | other (hFilled : trim segment ≠ []) (h : ∀ key value, ¬Declares segment key value) :
      Gives segment [] [segmentWarning segment]

theorem declaration?_trim (segment : List Char) :
    declaration? (trim segment) = declaration? segment := by
  rw [declaration?, declaration?, map_trim_splitAt_trim (by decide)]

theorem declaration?_eq_some_iff_declares {segment : List Char} {entry : String × String} :
    declaration? segment = some entry ↔ ∃ key value, Declares segment key value ∧
      entry = (String.ofList (trim key), String.ofList (trim value)) := by
  rw [declaration?_eq_some_iff]
  constructor
  · rintro ⟨key, value, hSplit, hKey, hValue, rfl⟩
    have hText : segment = key ++ ':' :: value := by
      rw [← intercalate_splitAt ':' segment, hSplit]
      simp
    have hColons : ∀ piece ∈ [key, value], ':' ∉ piece := hSplit ▸ not_mem_of_mem_splitAt
    exact ⟨key, value, ⟨hText, hColons key (by simp), hColons value (by simp), hKey, hValue⟩, rfl⟩
  · rintro ⟨key, value, h, rfl⟩
    refine ⟨key, value, ?_, h.key_filled, h.value_filled, rfl⟩
    rw [h.text, splitAt_append h.key_colon, splitAt_eq_singleton h.value_colon]

theorem Declares.trim_ne_nil {segment key value : List Char} (h : Declares segment key value) :
    trim segment ≠ [] := by
  intro hNil
  rw [trim_eq_nil_iff, h.text] at hNil
  exact absurd (hNil ':' (by simp)) (by decide)

theorem Declares.readSegment_eq {segment key value : List Char} (h : Declares segment key value) :
    readSegment (trim segment) = pure [(String.ofList (trim key), String.ofList (trim value))] := by
  have hSome : declaration? (trim segment) = some (String.ofList (trim key),
      String.ofList (trim value)) := by
    rw [declaration?_trim]
    exact declaration?_eq_some_iff_declares.2 ⟨key, value, h, rfl⟩
  rw [readSegment, if_neg (by simpa using h.trim_ne_nil), hSome]

theorem readSegment_of_blank {segment : List Char} (h : trim segment = []) :
    readSegment (trim segment) = pure [] := by
  rw [readSegment, h]
  rfl

/-- What is read from one segment. -/
theorem gives_readSegment (segment : List Char) :
    Gives segment (readSegment (trim segment)).value (readSegment (trim segment)).notes := by
  by_cases hNil : trim segment = []
  · rw [readSegment_of_blank hNil]
    exact .blank (trim_eq_nil_iff.1 hNil)
  · cases hDeclaration : declaration? (trim segment) with
    | some entry =>
      rw [declaration?_trim] at hDeclaration
      obtain ⟨key, value, h, rfl⟩ := declaration?_eq_some_iff_declares.1 hDeclaration
      rw [h.readSegment_eq]
      exact .declaration h
    | none =>
      have hOther : ∀ key value, ¬Declares segment key value := by
        intro key value h
        rw [declaration?_trim] at hDeclaration
        exact nomatch hDeclaration.symm.trans
          (declaration?_eq_some_iff_declares.2 ⟨key, value, h, rfl⟩)
      have hRead : readSegment (trim segment) = ⟨[], [segmentWarning segment]⟩ := by
        rw [readSegment, if_neg (by simpa using hNil), hDeclaration]
        rfl
      rw [hRead]
      exact .other hNil hOther

/-! ## Styles -/

/-- The declarations and notes of some segments. -/
def readSegments (segments : List (List Char)) : Noted (List (String × String)) :=
  ⟨segments.flatMap fun segment => (readSegment (trim segment)).value,
    segments.flatMap fun segment => (readSegment (trim segment)).notes⟩

theorem readSegments_cons (segment : List Char) (segments : List (List Char)) :
    readSegments (segment :: segments) = (do
      let first ← readSegment (trim segment)
      let rest ← readSegments segments
      pure (first ++ rest)) :=
  Noted.ext (by simp [readSegments]) (by simp [readSegments])

theorem read_eq (s : String) : read s = readSegments (splitAt ';' s.toList) := by
  refine Noted.ext ?_ ?_
  · rw [read, Noted.value_bind, Noted.value_mapM, Noted.value_pure, readSegments,
      List.flatMap_def]
  · rw [read, Noted.notes_bind, Noted.notes_mapM, Noted.notes_pure, List.append_nil, readSegments]

/-- A semicolon may stand between any two styles. -/
theorem read_append (s t : String) :
    read (s ++ ";" ++ t) = (do
      let first ← read s
      let rest ← read t
      pure (first ++ rest)) := by
  have hText : (s ++ ";" ++ t).toList = s.toList ++ ';' :: t.toList := by simp
  rw [read_eq, read_eq, read_eq, hText, splitAt_append_cons]
  exact Noted.ext (by simp [readSegments]) (by simp [readSegments])

/-! ## Keys and values -/

/-- Whether a text can be a key or a value. -/
structure IsPart (text : String) : Prop where
  ne_empty : text ≠ ""
  trimmed : trimmed text = text
  colon : ':' ∉ text.toList
  semicolon : ';' ∉ text.toList

theorem isPart_trim {s : List Char} (hFilled : trim s ≠ []) (hColon : ':' ∉ s)
    (hSemicolon : ';' ∉ s) : IsPart (String.ofList (trim s)) where
  ne_empty h := hFilled (by simpa using congrArg String.toList h)
  trimmed := by rw [Text.trimmed, String.toList_ofList, trim_trim]
  colon h := hColon (mem_of_mem_trim (by simpa using h))
  semicolon h := hSemicolon (mem_of_mem_trim (by simpa using h))

theorem Gives.isPart {segment : List Char} {entries : List (String × String)} {notes : List Note}
    (h : Gives segment entries notes) (hSemicolon : ';' ∉ segment) :
    ∀ entry ∈ entries, IsPart entry.1 ∧ IsPart entry.2 := by
  cases h with
  | blank => exact List.forall_mem_nil _
  | other => exact List.forall_mem_nil _
  | declaration h =>
    rw [h.text, List.mem_append, List.mem_cons, not_or, not_or] at hSemicolon
    obtain ⟨hKey, -, hValue⟩ := hSemicolon
    exact List.forall_mem_singleton.2 ⟨isPart_trim h.key_filled h.key_colon hKey,
      isPart_trim h.value_filled h.value_colon hValue⟩

theorem isPart_of_mem_read {s : String} {entry : String × String} (h : entry ∈ (read s).value) :
    IsPart entry.1 ∧ IsPart entry.2 := by
  rw [read_eq] at h
  obtain ⟨segment, hSegment, hEntry⟩ := List.mem_flatMap.1 h
  exact (gives_readSegment segment).isPart (not_mem_of_mem_splitAt segment hSegment) entry hEntry

/-! ## Reading what is written -/

/-- A declaration as it is written in a style. -/
def declarationText (entry : String × String) : String := entry.1 ++ ":" ++ entry.2

/-- Declarations as a style. -/
def written (entries : List (String × String)) : String :=
  joined ";" (entries.map declarationText)

theorem IsPart.trim_eq {text : String} (h : IsPart text) : trim text.toList = text.toList := by
  have hText := congrArg String.toList h.trimmed
  rwa [Text.trimmed, String.toList_ofList] at hText

theorem declares_declarationText {entry : String × String} (hKey : IsPart entry.1)
    (hValue : IsPart entry.2) :
    Declares (declarationText entry).toList entry.1.toList entry.2.toList where
  text := by simp [declarationText]
  key_colon := hKey.colon
  value_colon := hValue.colon
  key_filled := by
    rw [hKey.trim_eq, Ne, String.toList_eq_nil_iff]
    exact hKey.ne_empty
  value_filled := by
    rw [hValue.trim_eq, Ne, String.toList_eq_nil_iff]
    exact hValue.ne_empty

theorem readSegments_declarationText {entries : List (String × String)}
    (h : ∀ entry ∈ entries, IsPart entry.1 ∧ IsPart entry.2) :
    readSegments (entries.map fun entry => (declarationText entry).toList) = pure entries := by
  induction entries with
  | nil => rfl
  | cons entry entries ih =>
    obtain ⟨hKey, hValue⟩ := h entry List.mem_cons_self
    have hRest := ih fun e he => h e (List.mem_cons_of_mem _ he)
    have hFirst := (declares_declarationText hKey hValue).readSegment_eq
    rw [hKey.trim_eq, hValue.trim_eq, String.ofList_toList, String.ofList_toList] at hFirst
    rw [List.map_cons, readSegments_cons, hFirst, hRest]
    rfl

/-- Declarations that are written are read back. -/
theorem read_written {entries : List (String × String)}
    (h : ∀ entry ∈ entries, IsPart entry.1 ∧ IsPart entry.2) :
    read (written entries) = pure entries := by
  by_cases hNil : entries = []
  · subst hNil
    rfl
  · have hSemicolon : ∀ piece ∈ entries.map fun entry => (declarationText entry).toList,
        ';' ∉ piece := by
      intro piece hPiece
      obtain ⟨entry, hEntry, rfl⟩ := List.mem_map.1 hPiece
      obtain ⟨hKey, hValue⟩ := h entry hEntry
      simp [declarationText, hKey.semicolon, hValue.semicolon]
    have hText : (written entries).toList = List.intercalate [';']
        (entries.map fun entry => (declarationText entry).toList) := by
      rw [written, joined, String.toList_intercalate, List.map_map]
      rfl
    rw [read_eq, hText, splitAt_intercalate (by simpa using hNil) hSemicolon,
      readSegments_declarationText h]

/-! ## The statement of a style -/

/-- The entry that an argument of a map is: a key and a value as literals, and an arrow between
them. -/
def entryOf? : Argument → Option (String × String)
  | [.literal key, .word arrow, .literal value] =>
    if arrow = "->".toList then some (String.ofList key, String.ofList value) else none
  | _ => none

/-- The entries of the map that the arguments of a call assign to the style. -/
def entriesOf? : List Argument → Option (List (String × String))
  | [[.word member, .word assign, .word map, .group entries]] =>
    if member = "svg.style".toList ∧ assign = ":=".toList ∧ map = "Map".toList then
      entries.mapM entryOf?
    else none
  | _ => none

/-- An entry as an argument. -/
def entryArgument (entry : String × String) : Argument :=
  [.literal entry.1.toList, .word "->".toList, .literal entry.2.toList]

theorem mapM_entryOf?_entryArgument (entries : List (String × String)) :
    (entries.map entryArgument).mapM entryOf? = some entries := by
  induction entries with
  | nil => rfl
  | cons entry entries ih =>
    have hEntry : entryOf? (entryArgument entry) = some entry := by
      rw [entryArgument, entryOf?, if_pos rfl, String.ofList_toList, String.ofList_toList]
    rw [List.map_cons, List.mapM_cons, hEntry, ih]
    rfl

/-- The entries of the map in the statement of a style are read back. -/
theorem entriesOf?_render (entries : List (String × String)) :
    (read? (Statement.render ⟨.named "style", .map entries⟩)).bind entriesOf? = some entries := by
  have hReadable : AllReadable [.statement ⟨.named "style", .map entries⟩] :=
    allReadable_iff.2 (List.forall_mem_singleton.2 (by decide : IsWordText "style"))
  have hText : Item.content [.statement ⟨.named "style", .map entries⟩] =
      Statement.render ⟨.named "style", .map entries⟩ := rfl
  rw [← hText, read?_content hReadable]
  exact mapM_entryOf?_entryArgument entries

/-- What is read from a style.  Every segment gives nothing if it is blank, a declaration if it is
one, and a report otherwise, in order.  Keys and values are trimmed and hold no separators.  A
semicolon may stand between two styles, declarations that are written are read back without a note,
and so are the literals in the statement of the style. -/
theorem read_accounts_for_segments (s : String) :
    (∃ parts : List (List (String × String) × List Note),
      List.Forall₂ (fun segment part => Gives segment part.1 part.2) (splitAt ';' s.toList) parts ∧
      read s = ⟨parts.flatMap (·.1), parts.flatMap (·.2)⟩) ∧
    (∀ entry ∈ (read s).value, IsPart entry.1 ∧ IsPart entry.2) ∧
    (∀ t, read (s ++ ";" ++ t) = (do
      let first ← read s
      let rest ← read t
      pure (first ++ rest))) ∧
    read (written (read s).value) = pure (read s).value ∧
    (read? (convert s).value.render).bind entriesOf? = some (read s).value := by
  refine ⟨?_, fun entry => isPart_of_mem_read, read_append s, ?_, ?_⟩
  · refine ⟨(splitAt ';' s.toList).map fun segment =>
      ((readSegment (trim segment)).value, (readSegment (trim segment)).notes), ?_, ?_⟩
    · rw [List.forall₂_map_right_iff]
      exact List.forall₂_same.2 fun segment _ => gives_readSegment segment
    · rw [read_eq, readSegments, List.flatMap_map, List.flatMap_map]
  · exact read_written fun entry => isPart_of_mem_read
  · exact entriesOf?_render (read s).value

/-- A style with a quote, a backslash, a comma, an arrow and a parenthesis in its values, with a
blank segment, and with a segment of three parts. -/
def mixedStyle : String := " fill : \"a, b\\ ;; x:y:z; d:-> )"

/-- The declarations of the style have the quote, the backslash and the arrow in their values, and
so have the entries of its statement; the segment of three parts is reported. -/
theorem read_accounts_for_segments_mixed :
    read mixedStyle = ⟨[("fill", "\"a, b\\"), ("d", "-> )")],
      [⟨.warning, "Invalid style declaration: x:y:z"⟩]⟩ ∧
    (IsPart "fill" ∧ IsPart "\"a, b\\") ∧
    (read? (convert mixedStyle).value.render).bind entriesOf? =
      some [("fill", "\"a, b\\"), ("d", "-> )")] := by
  have hRead : read mixedStyle = ⟨[("fill", "\"a, b\\"), ("d", "-> )")],
      [⟨.warning, "Invalid style declaration: x:y:z"⟩]⟩ := by rfl
  obtain ⟨-, hParts, -, -, hEntries⟩ := read_accounts_for_segments mixedStyle
  have hMem : ("fill", "\"a, b\\") ∈ (read mixedStyle).value := by
    rw [hRead]
    exact List.mem_cons_self
  refine ⟨hRead, hParts _ hMem, ?_⟩
  rw [hEntries, hRead]

end SvgBuilder.Style
