import SvgBuilder.Comparison.Difference
import SvgBuilder.Proofs.Comparison.FreeDocument
import SvgBuilder.Proofs.Comparison.Inside
import SvgBuilder.Proofs.Text.CodeText

/-!
# The front of a module

What the patterns look for stands in the module up to the end of the arguments of its root.  This
front begins with its header, or with the documentation behind blanks, so only blanks are cut off it
as a prolog; what follows on it ends with the closing parenthesis of the root or with the quote of
the last color, so nothing of the front is cut off with an epilog either.  A front of free texts is
closed.

## Main results

* `inside_assemble`: the front stands inside.
* `isClosed_front`: the front of a free document is closed.
* `Begins.front`: what begins a line among the arguments of the root begins one in the front.
-/

namespace SvgBuilder

open SvgBuilder.Markup SvgBuilder.Text SvgBuilder.Source SvgBuilder.Comparison

variable {moduleName sourceName : String} {root : Element}

/-- The text of a module up to the end of the arguments of its root. -/
def front (settings : Settings) (moduleName sourceName : String) (root : Element) : String :=
  opening settings moduleName sourceName root ++ "svg.svg(\n" ++
    indented argumentMargin (Item.content (rootItems settings root).value) ++ "\n    "

theorem value_assemble_front (settings : Settings) (moduleName sourceName : String)
    (root : Element) : (assemble settings moduleName sourceName root).value =
      front settings moduleName sourceName root ++ ")" ++ closing settings root := by
  have hEnd : "\n    )" = "\n    " ++ ")" := by decide
  rw [value_assemble, rootCall, front, hEnd]
  simp only [String.append_assoc]

/-! ## Both ends -/

/-- Lines begin with what the first one begins with. -/
theorem exists_joined_cons (sep : String) {first : String} {c : Char} {s : List Char}
    (h : first.toList = c :: s) (rest : List String) :
    ∃ x, (joined sep (first :: rest)).toList = c :: x := by
  rw [joined_cons, String.toList_append, h]
  exact ⟨_, rfl⟩

theorem exists_header (settings : Settings) :
    header settings = "" ∨ ∃ c x, (header settings).toList = c :: x ∧ c ∈ ['p', 'i'] := by
  rw [header, headerText, CodeText.shown_joined]
  cases settings.package.filter fun (package : CodeText) => package ≠ "" with
  | some package =>
    have hFirst : (CodeText.ofString "package " ++ package).shown.toList =
        'p' :: ("ackage ".toList ++ package.shown.toList) := by
      simp
    obtain ⟨x, hText⟩ := exists_joined_cons "\n" hFirst _
    exact .inr ⟨'p', x, hText, by simp⟩
  | none =>
    cases settings.imports with
    | nil => exact .inl rfl
    | cons name imports =>
      have hFirst : (CodeText.ofString "import " ++ name).shown.toList =
          'i' :: ("mport ".toList ++ name.shown.toList) := by
        simp
      obtain ⟨x, hText⟩ := exists_joined_cons "\n" hFirst _
      exact .inr ⟨'i', x, hText, by simp⟩

theorem exists_documentation (root : Element) : ∃ x, (documentation root).toList = '/' :: x := by
  have hFirst : "/**".toList = '/' :: ['*', '*'] := by decide
  exact exists_joined_cons "\n" hFirst _

/-- A front begins with its header, or with blanks and the documentation. -/
theorem exists_front (settings : Settings) (moduleName sourceName : String) (root : Element) :
    ∃ blanks c x, (front settings moduleName sourceName root).toList = blanks ++ c :: x ∧
      (∀ d ∈ blanks, isBlank d = true) ∧ c ∈ ['p', 'i', '/'] := by
  obtain ⟨rest, hOpening⟩ : ∃ rest, openingLines settings moduleName sourceName root =
    header settings :: "" :: documentation root :: rest := ⟨_, rfl⟩
  suffices hLines : ∃ blanks c x, (joined "\n" (openingLines settings moduleName sourceName
      root)).toList = blanks ++ c :: x ∧ (∀ d ∈ blanks, isBlank d = true) ∧ c ∈ ['p', 'i', '/'] by
    obtain ⟨blanks, c, x, hText, hFirst⟩ := hLines
    rw [front, opening]
    simp only [String.toList_append, hText, List.append_assoc, List.cons_append]
    exact ⟨blanks, c, _, rfl, hFirst⟩
  rw [hOpening]
  rcases exists_header settings with hEmpty | ⟨c, x, hHeader, hc⟩
  · obtain ⟨x, hDocumentation⟩ := exists_documentation root
    obtain ⟨y, hLines⟩ := exists_joined_cons "\n" hDocumentation rest
    refine ⟨['\n', '\n'], '/', y, ?_, fun d hd => ?_, by simp⟩
    · rw [hEmpty, joined, String.intercalate_cons_cons, String.intercalate_cons_cons, ← joined]
      simp [hLines]
    · obtain rfl : d = '\n' := by simpa using hd
      decide
  · obtain ⟨y, hLines⟩ := exists_joined_cons "\n" hHeader ("" :: documentation root :: rest)
    exact ⟨[], c, y, hLines, fun d hd => absurd hd List.not_mem_nil, List.mem_append_left ['/'] hc⟩

/-- The last line of a text that is put together of lines. -/
theorem exists_joined_concat (sep first last : String) (more : List String) :
    ∃ x, (joined sep (first :: more ++ [last])).toList = x ++ last.toList := by
  rw [joined_append]
  refine ⟨(joined sep (first :: more)).toList ++ sep.toList, ?_⟩
  simp [String.join]

theorem exists_constantLine (constant : String × String) :
    ∃ x, (constantLine constant).toList = x ++ ['\x22'] := by
  refine ⟨(constantMargin ++ "val " ++ constant.1 ++ " = ").toList ++
    '\x22' :: Literal.encode constant.2.toList, ?_⟩
  simp [constantLine, Literal.quote]

/-- The constants of colors end with the quote of the last one. -/
theorem exists_colorConstants {root : Element} (h : colorConstants root ≠ "") :
    ∃ x, (colorConstants root).toList = x ++ ['\x22'] := by
  unfold colorConstants at h ⊢
  split at h
  · exact absurd rfl h
  · next hColors =>
    rcases List.eq_nil_or_concat (colors root) with hNil | ⟨init, last, hConcat⟩
    · exact absurd hNil hColors
    · obtain ⟨x, hLines⟩ := exists_joined_concat "\n" "// Color constants used in this SVG"
        (constantLine last) ("object Colors:" :: init.map constantLine)
      obtain ⟨y, hLast⟩ := exists_constantLine last
      refine ⟨x ++ y, ?_⟩
      rw [List.append_assoc, ← hLast, ← hLines, hConcat, List.concat_eq_append, List.map_append]
      rfl

/-- A quote at the end of a text stays there when the text is indented. -/
theorem exists_indented_quote {margin s : String} (hm : IsMargin margin.toList) {x : List Char}
    (h : s.toList = x ++ ['\x22']) : ∃ y, (indented margin s).toList = y ++ ['\x22'] := by
  obtain ⟨x', hTail, -⟩ := indentTail_append hm x ['\x22']
  have hQuote : indentTail margin.toList ['\x22'] = ['\x22'] := by
    rw [indentTail_cons_of_not_endsLine (endsLine_eq_false (by decide) [])]
    rfl
  refine ⟨lineMargin margin.toList s.toList ++ x', ?_⟩
  rw [toList_indented, h, hTail, hQuote, List.append_assoc]

/-- A module ends with a character that neither is a blank nor ends a comment, and the end of its
line. -/
theorem exists_closing (settings : Settings) (root : Element) :
    ∃ x c, (")" ++ closing settings root).toList = x ++ c :: ['\n'] ∧ (c = ')' ∨ c = '\x22') := by
  unfold closing colorLines
  split
  · next h =>
    obtain ⟨x, hConstants⟩ := exists_colorConstants h.2
    obtain ⟨y, hIndented⟩ := exists_indented_quote (by decide : IsMargin memberMargin.toList)
      hConstants
    refine ⟨")\n\n".toList ++ y, '\x22', ?_, .inr rfl⟩
    simp [String.join, hIndented]
  · exact ⟨[], ')', rfl, .inl rfl⟩

/-- The front of a module stands inside, but for blanks at its beginning. -/
theorem inside_assemble (settings : Settings) (moduleName sourceName : String) (root : Element) :
    ∃ blanks s rest, (front settings moduleName sourceName root).toList = blanks ++ s ∧
      (∀ d ∈ blanks, isBlank d = true) ∧
      inside (assemble settings moduleName sourceName root).value.toList = s ++ rest := by
  obtain ⟨blanks, f, x, hFront, hBlanks, hFirst⟩ := exists_front settings moduleName sourceName root
  obtain ⟨y, c, hClosing, hc⟩ := exists_closing settings root
  have hText : (assemble settings moduleName sourceName root).value.toList =
      blanks ++ (f :: (x ++ y) ++ c :: ['\n']) := by
    rw [value_assemble_front, String.append_assoc, String.toList_append, hFront, hClosing]
    simp
  obtain ⟨hPlain, hMark, hOpen⟩ : isBlank f = false ∧ f ≠ '\uFEFF' ∧ f ≠ '<' := by
    simp only [List.mem_cons, List.not_mem_nil, or_false] at hFirst
    rcases hFirst with rfl | rfl | rfl <;> decide
  have hBlank : isBlank c = false := by rcases hc with rfl | rfl <;> decide
  have hEnd : c ≠ '>' := by rcases hc with rfl | rfl <;> decide
  have hBreak : ∀ d ∈ ['\n'], isBlank d = true := by
    intro d hd
    rw [List.mem_singleton.1 hd]
    decide
  refine ⟨blanks, f :: x, y ++ [c], hFront, hBlanks, ?_⟩
  rw [hText, inside_append hPlain hMark hOpen hBlanks hBlank hEnd hBreak]
  simp

/-! ## Free modules -/

theorem isFree_documentation {root : Element} (h : IsFreeDocument root) :
    IsFree (documentation root).toList := by
  have hBlank : ' ' ∉ otherOpening := by decide
  have hStar : IsFree " *".toList := by decide
  have hLine {label : String} (hLabel : IsFree label.toList) {text : String}
      (hText : IsFree text.toList) : IsFree (label ++ " " ++ documentationText text).toList := by
    simpa using hLabel.append_cons (IsFree.documentationText hText) hBlank
  have hTitle : IsFree (if textOfFirst root "title" = "" then defaultTitle
      else textOfFirst root "title").toList := by
    split
    · decide
    · exact h.title
  refine IsFree.joined (c := '\n') rfl (by decide) fun part hPart => ?_
  rcases List.mem_append.1 hPart with hPart | hPart
  · rcases List.mem_append.1 hPart with hPart | hPart
    · simp only [List.mem_cons, List.not_mem_nil, or_false] at hPart
      rcases hPart with rfl | rfl
      · decide
      · exact hLine hStar hTitle
    · unfold descriptionLines at hPart
      split at hPart
      · exact absurd hPart List.not_mem_nil
      · simp only [List.mem_cons, List.not_mem_nil, or_false] at hPart
        rcases hPart with rfl | rfl
        · exact hStar
        · exact hLine (by decide +kernel : IsFree " * Description:".toList) h.description
  · have hAll : ∀ line ∈ parameterLines, IsFree line.toList := by decide +kernel
    exact hAll part hPart

theorem isFree_opening {settings : Settings} (hHeader : IsFree (header settings).toList)
    (hModule : IsFree moduleName.toList) (hSource : IsFree sourceName.toList)
    (h : IsFreeDocument root) :
    ∀ line ∈ openingLines settings moduleName sourceName root, IsFree line.toList := by
  have hFixed : ∀ line ∈ ["", "  def apply(", "    className: Option[String] = None,",
      "    customAttributes: Seq[Modifier[SvgElement]] = Seq.empty", "  ): SvgElement ="],
      IsFree line.toList := by
    decide +kernel
  have hNil : IsFree [] := by decide
  have hBlank : ' ' ∉ otherOpening := by decide
  have hObject : IsFree ("object " ++ moduleName ++ ":").toList := by
    have hName := (by decide : IsFree "object".toList).append_cons hModule hBlank
    simpa using hName.append_cons hNil (by decide : ':' ∉ otherOpening)
  have hOrigin : IsFree ("  // Generated from SVG file: " ++ sourceName).toList := by
    have hLabel : IsFree "  // Generated from SVG file:".toList := by decide +kernel
    simpa using hLabel.append_cons hSource hBlank
  have hSize : IsFree ("    size: Int = " ++ Number.integerText settings.defaultSize ++
      ",").toList := by
    have hLabel : IsFree "    size: Int =".toList := by decide +kernel
    have hNumber := hLabel.append_cons (IsFree.integerText settings.defaultSize) hBlank
    simpa using hNumber.append_cons hNil (by decide : ',' ∉ otherOpening)
  intro line hLine
  simp only [openingLines, List.mem_cons, List.not_mem_nil, or_false] at hLine hFixed
  rcases hLine with rfl | rfl | rfl | rfl | rfl | rfl | rfl | rfl | rfl | rfl
  case inl => exact hHeader
  case inr.inr.inl => exact isFree_documentation h
  case inr.inr.inr.inl => exact hObject
  case inr.inr.inr.inr.inl => exact hOrigin
  case inr.inr.inr.inr.inr.inr.inl => exact hSize
  all_goals exact hFixed _ (by simp)

/-- The front of a free document is closed. -/
theorem isClosed_front {settings : Settings} (hHeader : IsFree (header settings).toList)
    {bytes : List UInt8} (hRead : readDocument bytes = .ok root)
    (hModule : IsFree moduleName.toList) (hSource : IsFree sourceName.toList)
    (h : IsFreeDocument root) : IsClosed (front settings moduleName sourceName root).toList := by
  have hBreak : '\n' ∉ quotedOpening := by decide
  have hMargin : IsFree "    ".toList := by decide
  have hCall : IsFree "    svg.svg(".toList := by decide
  have hLines : IsFree (joined "\n" (openingLines settings moduleName sourceName root)).toList :=
    IsFree.joined (c := '\n') rfl (by decide) (isFree_opening hHeader hModule hSource h)
  have hItems := isClosed_content _ (allFree_rootItems hRead h.elements settings)
  have hIndented := hItems.indented (by decide : IsMargin argumentMargin.toList)
  have hRoot := hCall.isClosed.append_cons (hIndented.append_cons hMargin.isClosed hBreak) hBreak
  simpa [front, opening] using hLines.isClosed.append_cons hRoot hBreak

/-- What begins a line among the arguments of the root begins one in the front of the module. -/
theorem Begins.front {w : List Char} (hw : ∀ c ∈ w, isLineBreak c = false) {settings : Settings}
    (h : Begins w (Item.content (rootItems settings root).value).toList) :
    Begins w (front settings moduleName sourceName root).toList := by
  have hIndented := h.indented (by decide : IsMargin argumentMargin.toList) hw
  rw [SvgBuilder.front, String.toList_append, String.toList_append]
  refine (hIndented.behind ?_).append _
  rw [String.toList_append, linesUp_append]
  rfl

end SvgBuilder
