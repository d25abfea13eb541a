import Mathlib.Data.List.Infix
import SvgBuilder.Component.Documentation
import SvgBuilder.Proofs.Text.Blank
import SvgBuilder.Proofs.Text.Infix
import SvgBuilder.Proofs.Text.Line
import SvgBuilder.Proofs.Text.Split

/-!
# The comment that documents a module

The documentation of a module is one comment, and no title and no description can end it or begin
another one in it.  Both delimiters are taken out of the words of a document, one after the other.
What is written for the first one holds no character that could begin the second one, and what is
written for the second one ends none of the first, so that neither brings the other one back.  The
words hold nothing that ends a line, since all of that is blank.

## Main results

* `not_infix_replacedPair`, `not_infix_replacedPair_swapped`: a pair of characters that is replaced
  is gone, and the pair in the other order does not come up.
* `isHarmless_documentationText`: no comment begins or ends in a text of the documentation.
* `documentation_is_comment`: the documentation is one comment, line by line.
-/

namespace SvgBuilder

open SvgBuilder.Markup SvgBuilder.Text

/-! ## Pairs that are replaced -/

section Pair

variable {a b c : Char} {new s : List Char}

/-- The text goes on to begin with the same character if the new text begins like the pair. -/
theorem head?_replacedPair (a b : Char) (new s : List Char) :
    (replacedPair a b (a :: new) s).head? = s.head? := by
  fun_cases replacedPair a b (a :: new) s with
  | case1 => rfl
  | case2 c => rfl
  | case3 c d s h => rw [h.1]; rfl
  | case4 c d s h => rfl

theorem mem_replacedPair (h : c ∈ replacedPair a b new s) : c ∈ s ∨ c ∈ new := by
  fun_induction replacedPair a b new s with
  | case1 => exact .inl h
  | case2 d => exact .inl h
  | case3 d e s hPair ih =>
    rcases List.mem_append.1 h with h | h
    · exact .inr h
    · exact (ih h).imp_left fun hMem => List.mem_cons_of_mem _ (List.mem_cons_of_mem _ hMem)
  | case4 d e s hPair ih =>
    rcases List.mem_cons.1 h with rfl | h
    · exact .inl List.mem_cons_self
    · exact (ih h).imp_left (List.mem_cons_of_mem _)

/-- A pair that a text begins with. -/
theorem pair_prefix_cons_iff {d : Char} : [a, b] <+: d :: s ↔ d = a ∧ s.head? = some b := by
  rw [List.cons_prefix_cons, eq_comm]
  cases s <;> simp [eq_comm]

/-- A pair that is replaced is gone. -/
theorem not_infix_replacedPair (hNext : c ≠ b) (hNew : a ∉ c :: new) :
    ¬[a, b] <:+: replacedPair a b (a :: c :: new) s := by
  fun_induction replacedPair a b (a :: c :: new) s with
  | case1 => simp
  | case2 d => exact fun h => absurd h.length_le (by simp)
  | case3 d e s hPair ih =>
    -- the new text goes on with another character behind the first one of the pair, and holds no more
    rw [List.cons_append, List.infix_cons_iff, pair_prefix_cons_iff, not_or]
    exact ⟨fun h => hNext (Option.some.inj h.2), fun h => ih (infix_of_not_mem_head h hNew)⟩
  | case4 d e s hPair ih =>
    rw [List.infix_cons_iff, pair_prefix_cons_iff, head?_replacedPair, not_or]
    exact ⟨fun h => hPair ⟨h.1, Option.some.inj h.2⟩, ih⟩

/-- The pair in the other order does not come up. -/
theorem not_infix_replacedPair_swapped (hNew : b ∉ a :: new) (h : ¬[b, a] <:+: s) :
    ¬[b, a] <:+: replacedPair a b (a :: new) s := by
  fun_induction replacedPair a b (a :: new) s with
  | case1 => exact h
  | case2 d => exact h
  | case3 d e s hPair ih =>
    have hRest : ¬[b, a] <:+: s := fun hInfix =>
      h (hInfix.trans (List.suffix_append [d, e] s).isInfix)
    exact fun hInfix => ih hRest (infix_of_not_mem_head hInfix hNew)
  | case4 d e s hPair ih =>
    obtain ⟨hFirst, hRest⟩ := not_or.1 (mt List.infix_cons_iff.2 h)
    rw [List.infix_cons_iff, pair_prefix_cons_iff, head?_replacedPair, ← pair_prefix_cons_iff, not_or]
    exact ⟨hFirst, ih hRest⟩

end Pair

/-! ## Texts of the documentation -/

/-- Whether no comment begins and none ends in a text. -/
structure IsHarmless (s : List Char) : Prop where
  begins : ¬"/*".toList <:+: s
  ends : ¬"*/".toList <:+: s

instance (s : List Char) : Decidable (IsHarmless s) :=
  decidable_of_iff (¬"/*".toList <:+: s ∧ ¬"*/".toList <:+: s)
    ⟨fun h => ⟨h.1, h.2⟩, fun h => ⟨h.begins, h.ends⟩⟩

theorem IsHarmless.append_cons {s t : List Char} {c : Char} (hs : IsHarmless s) (ht : IsHarmless t)
    (hc : c ≠ '*' ∧ c ≠ '/') : IsHarmless (s ++ c :: t) where
  begins h := (infix_append_cons h (by simp [hc])).elim hs.begins ht.begins
  ends h := (infix_append_cons h (by simp [hc])).elim hs.ends ht.ends

theorem isHarmless_documentationText (s : String) : IsHarmless (documentationText s).toList := by
  rw [documentationText, String.toList_ofList]
  constructor
  · exact not_infix_replacedPair (by decide) (by decide)
  -- the ends of comments are replaced first, and replacing the beginnings brings none back
  · exact not_infix_replacedPair_swapped (by decide)
      (not_infix_replacedPair (by decide) (by decide))

/-- The words of a text stand on one line. -/
theorem not_isLineBreak_of_mem_documentationText {s : String} :
    ∀ c ∈ (documentationText s).toList, isLineBreak c = false := by
  have hLine : ∀ c ∈ (joined " " ((words s.toList).map String.ofList)).toList,
      isLineBreak c = false := by
    rw [joined, String.toList_intercalate, List.map_map]
    refine forall_mem_intercalate (not_isLineBreak_of_all (by decide)) fun word hWord c hc => ?_
    obtain ⟨w, hw, rfl⟩ := List.mem_map.1 hWord
    rw [Function.comp_apply, String.toList_ofList] at hc
    exact not_isLineBreak_of_not_isBlank (not_isBlank_of_mem_words hw c hc)
  intro c hc
  rw [documentationText, String.toList_ofList] at hc
  rcases mem_replacedPair hc with hc | hNew
  · rcases mem_replacedPair hc with hc | hNew
    · exact hLine c hc
    · exact not_isLineBreak_of_all (by decide) c hNew
  · exact not_isLineBreak_of_all (by decide) c hNew

/-! ## The lines of the documentation -/

/-- A line of a comment between the first and the last one. -/
structure IsCommentLine (line : List Char) : Prop where
  begins : " *".toList <+: line
  harmless : IsHarmless line
  single : ∀ c ∈ line, isLineBreak c = false

instance (line : List Char) : Decidable (IsCommentLine line) :=
  decidable_of_iff
    (" *".toList <+: line ∧ IsHarmless line ∧ line.all (!isLineBreak ·) = true)
    ⟨fun h => ⟨h.1, h.2.1, not_isLineBreak_of_all h.2.2⟩,
      fun h => ⟨h.begins, h.harmless, List.all_eq_true.2 (by simpa using h.single)⟩⟩

/-- A text of the documentation behind a label, which is kept apart from it by its last character.
-/
theorem IsCommentLine.append_text {label : String} (h : IsCommentLine label.toList)
    (hLast : label.toList.getLast? = some ' ') (s : String) :
    IsCommentLine (label ++ documentationText s).toList := by
  obtain ⟨front, hFront⟩ := List.getLast?_eq_some_iff.1 hLast
  have hText : (label ++ documentationText s).toList =
      front ++ ' ' :: (documentationText s).toList := by
    rw [String.toList_append, hFront, List.append_assoc, List.singleton_append]
  have hHarmless : IsHarmless front := by
    have hInfix : front <:+: label.toList := ⟨[], [' '], by simp [hFront]⟩
    exact ⟨fun hBegin => h.harmless.begins (hBegin.trans hInfix),
      fun hEnd => h.harmless.ends (hEnd.trans hInfix)⟩
  refine ⟨?_, ?_, ?_⟩
  · rw [String.toList_append]
    exact h.begins.trans (List.prefix_append _ _)
  · rw [hText]
    exact hHarmless.append_cons (isHarmless_documentationText s) (by decide)
  · rw [String.toList_append]
    exact List.forall_mem_append.2 ⟨h.single, not_isLineBreak_of_mem_documentationText⟩

/-- The title that the module of a document is documented with. -/
def documentedTitle (root : Element) : String :=
  if textOfFirst root "title" = "" then defaultTitle else textOfFirst root "title"

/-- The lines of the documentation between the first and the last one. -/
def documentationBody (root : Element) : List String :=
  (" * " ++ documentationText (documentedTitle root)) ::
    (descriptionLines (textOfFirst root "desc") ++ parameterLines.dropLast)

theorem documentationLines_eq (root : Element) :
    "/**" :: (documentationBody root ++ [" */"]) =
      ["/**", " * " ++ documentationText (documentedTitle root)] ++
        descriptionLines (textOfFirst root "desc") ++ parameterLines := by
  have hLast : parameterLines.dropLast ++ [" */"] = parameterLines := rfl
  rw [documentationBody, List.cons_append, List.append_assoc, hLast]
  dsimp only [List.cons_append, List.nil_append]

theorem documentation_eq (root : Element) :
    documentation root = joined "\n" ("/**" :: (documentationBody root ++ [" */"])) := by
  rw [documentationLines_eq, documentation, documentedTitle]

theorem isCommentLine_of_mem_documentationBody (root : Element) :
    ∀ line ∈ (documentationBody root).map String.toList, IsCommentLine line := by
  refine List.forall_mem_map.2 fun line hLine => ?_
  rcases List.mem_cons.1 hLine with rfl | hLine
  · exact IsCommentLine.append_text (by decide +kernel) (by decide) _
  rcases List.mem_append.1 hLine with hLine | hLine
  · unfold descriptionLines at hLine
    split at hLine
    · exact absurd hLine List.not_mem_nil
    · simp only [List.mem_cons, List.not_mem_nil, or_false] at hLine
      rcases hLine with rfl | rfl
      · decide +kernel
      · exact IsCommentLine.append_text (by decide +kernel) (by decide) _
  · have hLines : ∀ line ∈ parameterLines.dropLast, IsCommentLine line.toList := by decide +kernel
    exact hLines line hLine


/-- The lines of the documentation as texts. -/
theorem toList_documentation (root : Element) :
    (documentation root).toList = List.intercalate ['\n']
      ("/**".toList :: ((documentationBody root).map String.toList ++ [" */".toList])) := by
  rw [documentation_eq, joined, String.toList_intercalate, List.map_cons, List.map_append]
  rfl

theorem lines_documentation (root : Element) :
    lines (documentation root).toList =
      "/**".toList :: ((documentationBody root).map String.toList ++ [" */".toList]) := by
  rw [toList_documentation]
  refine lines_intercalate (List.forall_mem_cons.2 ⟨not_isLineBreak_of_all (by decide),
    List.forall_mem_append.2 ⟨fun line hLine => ?_, ?_⟩⟩) ?_
  · exact (isCommentLine_of_mem_documentationBody root line hLine).single
  · exact List.forall_mem_singleton.2 (not_isLineBreak_of_all (by decide))
  · rw [← List.cons_append, List.getLast?_concat]
    decide

/-! ## One comment -/

/-- A comment begins only in the first line of the documentation, and with it. -/
theorem eq_nil_of_documentation_begins {root : Element} {before behind : List Char}
    (h : (documentation root).toList = before ++ "/*".toList ++ behind) : before = [] := by
  rw [toList_documentation] at h
  obtain ⟨front, line, back, x, y, hLines, hLine, hBefore, -⟩ :=
    exists_part_of_intercalate h.symm (by decide) (by decide)
  cases front with
  | nil =>
    -- behind the slash of the first line there is no other one
    rw [← hBefore rfl]
    obtain ⟨rfl, -⟩ := List.cons.inj hLines
    cases x with
    | nil => rfl
    | cons c x =>
      have hRest : "**".toList = x ++ "/*".toList ++ y := (List.cons.inj hLine).2
      have hMem : '/' ∈ "**".toList := by
        rw [hRest]
        simp
      exact absurd hMem (by decide)
  | cons first front =>
    have hMem : line ∈ (documentationBody root).map String.toList ++ [" */".toList] := by
      rw [(List.cons.inj hLines).2]
      simp
    exfalso
    rcases List.mem_append.1 hMem with hBody | hLast
    · exact (isCommentLine_of_mem_documentationBody root line hBody).harmless.begins
        ⟨x, y, hLine.symm⟩
    · have hNone : ¬"/*".toList <:+: " */".toList := by decide
      rw [List.mem_singleton.1 hLast] at hLine
      exact hNone ⟨x, y, hLine.symm⟩

/-- A comment ends only in the last line of the documentation, and with it. -/
theorem eq_nil_of_documentation_ends {root : Element} {before behind : List Char}
    (h : (documentation root).toList = before ++ "*/".toList ++ behind) : behind = [] := by
  rw [toList_documentation, ← List.cons_append] at h
  obtain ⟨front, line, back, x, y, hLines, hLine, -, hBehind⟩ :=
    exists_part_of_intercalate h.symm (by decide) (by decide)
  rcases List.eq_nil_or_concat back with rfl | ⟨back, last, rfl⟩
  · rw [← hBehind rfl]
    obtain ⟨-, hLast⟩ := List.append_inj' hLines rfl
    rw [← (List.cons.inj hLast).1] at hLine
    -- the last line is the blank and the delimiter, so nothing is left behind it
    cases x with
    | nil => exact absurd (List.cons.inj hLine).1 (by decide)
    | cons c x =>
      have hLength : x.length + (y.length + 1 + 1) = 2 := by
        simpa using congrArg List.length hLine
      exact List.eq_nil_of_length_eq_zero (by omega)
  · have hSplit : front ++ line :: back.concat last = (front ++ line :: back) ++ [last] := by
      rw [List.concat_eq_append, List.append_assoc, List.cons_append]
    obtain ⟨hInit, -⟩ := List.append_inj' (hLines.trans hSplit) rfl
    have hMem : line ∈ "/**".toList :: (documentationBody root).map String.toList := by
      rw [hInit]
      simp
    exfalso
    rcases List.mem_cons.1 hMem with rfl | hBody
    · have hNone : ¬"*/".toList <:+: "/**".toList := by decide
      exact hNone ⟨x, y, hLine.symm⟩
    · exact (isCommentLine_of_mem_documentationBody root line hBody).harmless.ends
        ⟨x, y, hLine.symm⟩

/-- The documentation of a module is one comment, whatever the document holds.  It begins at the
very beginning and at no other place, and it ends at the very end and at no other place.  By all
that ends a line, its lines are those that are written: the title on one line, the description, if
there is one, on another, and every line but the first begins as a line of a comment does. -/
theorem documentation_is_comment (root : Element) :
    let text := (documentation root).toList
    ("/*".toList <+: text ∧ ∀ before behind, text = before ++ "/*".toList ++ behind → before = []) ∧
    ("*/".toList <:+ text ∧ ∀ before behind, text = before ++ "*/".toList ++ behind → behind = []) ∧
    lines text = (["/**", " * " ++ documentationText (documentedTitle root)] ++
      descriptionLines (textOfFirst root "desc") ++ parameterLines).map String.toList ∧
    ∀ line ∈ (lines text).tail, " *".toList <+: line := by
  have hBegins : "/*".toList <+: (documentation root).toList := by
    rw [toList_documentation]
    cases (documentationBody root).map String.toList <;> exact ⟨_, rfl⟩
  have hEnds : "*/".toList <:+ (documentation root).toList := by
    rw [toList_documentation, ← List.cons_append]
    exact List.IsSuffix.trans ⟨" ".toList, rfl⟩ (suffix_intercalate _)
  refine ⟨⟨hBegins, fun before behind => eq_nil_of_documentation_begins⟩,
    ⟨hEnds, fun before behind => eq_nil_of_documentation_ends⟩, ?_, ?_⟩
  · rw [lines_documentation, ← documentationLines_eq, List.map_cons, List.map_append]
    rfl
  · rw [lines_documentation, List.tail_cons]
    refine List.forall_mem_append.2 ⟨?_, ?_⟩
    · exact fun line hLine => (isCommentLine_of_mem_documentationBody root line hLine).begins
    · rw [List.forall_mem_singleton]
      decide

end SvgBuilder
