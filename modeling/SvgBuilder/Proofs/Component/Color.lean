import SvgBuilder.Proofs.Builder.Rendering
import SvgBuilder.Proofs.Component.Assembly
import SvgBuilder.Proofs.OrderedMap

/-!
# The constants of colors

The constants of the colors of a document stand in an object behind the call of the root.  Their
names are words, whatever the colors are, so that the object is read back with one literal for each
of them.

What counts as a color is a pattern: a number sign with three to eight hexadecimal digits where a
word ends, or a function with anything up to its first closing parenthesis.

## Main results

* `colorAt?_eq_some_iff`: the literals that a text begins with are those of the pattern.
* `exists_color_of_mem_colorLiterals`: the two forms of the literals in a document.
* `isWordText_colorName_literal`: the name of a color is a word.
* `mem_colors_iff`: a constant holds the first literal that has its name.
* `tokens?_closing`: the tokens behind the call of the root.
-/

namespace SvgBuilder

open SvgBuilder.Markup SvgBuilder.Text SvgBuilder.Source

/-! ## Literals -/

/-- What a color literal consists of. -/
inductive Color where
  | hex (digits : List Char) (hDigits : ∀ c ∈ digits, isHexDigit c = true)
  | function (alpha : Bool) (arguments : List Char) (hArguments : ')' ∉ arguments)

namespace Color

/-- The name of a color function. -/
def functionName (alpha : Bool) : String := if alpha then "rgba" else "rgb"

/-- The literal of a color. -/
def literal : Color → String
  | hex digits _ => String.ofList ('#' :: digits)
  | function alpha arguments _ =>
    String.ofList ((functionName alpha).toList ++ '(' :: (arguments ++ [')']))

end Color

/-- What holds of the hexadecimal digits, which are ASCII. -/
theorem of_isHexDigit {p : Char → Bool}
    (hp : ∀ n < 128, isHexDigit (Char.ofNat n) = true → p (Char.ofNat n) = true) {c : Char}
    (h : isHexDigit c = true) : p c = true := by
  have hCode : c.toNat < 128 := by
    simp only [isHexDigit, Bool.or_eq_true, Bool.and_eq_true, decide_eq_true_eq,
      Char.le_def, UInt32.le_iff_toNat_le] at h
    have hDigit : '9'.val.toNat = 57 := rfl
    have hUpper : 'F'.val.toNat = 70 := rfl
    have hLower : 'f'.val.toNat = 102 := rfl
    show c.val.toNat < 128
    omega
  have hDigit := hp c.toNat hCode
  rw [Char.ofNat_toNat] at hDigit
  exact hDigit h

/-! ## The pattern of literals -/

/-- Whether a text is a color literal in front of another text. -/
inductive IsLiteralBefore : List Char → List Char → Prop
  /-- Three to eight hexadecimal digits behind a number sign, where no word goes on. -/
  | hex {digits behind : List Char} (hDigits : ∀ c ∈ digits, isHexDigit c = true)
    (hLength : 3 ≤ digits.length ∧ digits.length ≤ 8)
    (hEnd : ∀ c ∈ behind.head?, isWord c = false) : IsLiteralBefore ('#' :: digits) behind
  /-- A function with arguments up to the first closing parenthesis. -/
  | function (alpha : Bool) {arguments behind : List Char} (hArguments : ')' ∉ arguments)
    (hSome : arguments ≠ []) :
    IsLiteralBefore ((Color.functionName alpha).toList ++ '(' :: (arguments ++ [')'])) behind

/-- A digit that no word goes on behind ends its run. -/
theorem takeWhile_isHexDigit {digits behind : List Char} (hDigits : ∀ c ∈ digits, isHexDigit c = true)
    (hEnd : ∀ c ∈ behind.head?, isWord c = false) :
    (digits ++ behind).takeWhile isHexDigit = digits ∧
      (digits ++ behind).dropWhile isHexDigit = behind := by
  rw [List.takeWhile_append_of_pos hDigits, List.dropWhile_append_of_pos hDigits]
  cases behind with
  | nil => simp
  | cons c behind =>
    have hNoDigit : ¬isHexDigit c = true := by
      intro hDigit
      have hWord : isWord c = true := of_isHexDigit (by decide) hDigit
      rw [hEnd c rfl] at hWord
      cases hWord
    rw [List.takeWhile_cons_of_neg hNoDigit, List.dropWhile_cons_of_neg hNoDigit, List.append_nil]
    exact ⟨rfl, rfl⟩

theorem hexColor?_eq_some_iff {s literal : List Char} :
    hexColor? s = some literal ↔
      ∃ digits behind, s = digits ++ behind ∧ literal = '#' :: digits ∧
        (∀ c ∈ digits, isHexDigit c = true) ∧ (3 ≤ digits.length ∧ digits.length ≤ 8) ∧
        ∀ c ∈ behind.head?, isWord c = false := by
  have hAny {behind : List Char} : (!(behind.head?.any isWord)) = true ↔
      ∀ c ∈ behind.head?, isWord c = false := by
    cases behind <;> simp
  unfold hexColor?
  dsimp only
  constructor
  · intro h
    split at h
    · next hFits =>
      obtain ⟨hLeast, hMost, hEnd⟩ := hFits
      exact ⟨s.takeWhile isHexDigit, s.dropWhile isHexDigit,
        List.takeWhile_append_dropWhile.symm, (Option.some.inj h).symm,
        List.all_eq_true.1 List.all_takeWhile, ⟨hLeast, hMost⟩, hAny.1 hEnd⟩
    · cases h
  · rintro ⟨digits, behind, rfl, rfl, hDigits, ⟨hLeast, hMost⟩, hEnd⟩
    obtain ⟨hTake, hDrop⟩ := takeWhile_isHexDigit hDigits hEnd
    rw [hTake, hDrop, if_pos ⟨hLeast, hMost, hAny.2 hEnd⟩]

theorem colorArguments?_eq_some_iff {s text : List Char} :
    colorArguments? s = some text ↔
      ∃ arguments behind, s = arguments ++ ')' :: behind ∧ text = arguments ++ [')'] ∧
        ')' ∉ arguments ∧ arguments ≠ [] := by
  unfold colorArguments?
  dsimp only
  constructor
  · intro h
    split at h
    · next hFits =>
      obtain ⟨hSome, hShorter⟩ := hFits
      have hParts := List.takeWhile_append_dropWhile (p := (· ≠ ')')) (l := s)
      have hHead := List.head?_dropWhile_not (fun c : Char => decide (c ≠ ')')) s
      cases hBehind : s.dropWhile (· ≠ ')') with
      | nil =>
        rw [hBehind, List.append_nil] at hParts
        rw [hParts] at hShorter
        exact absurd hShorter (Nat.lt_irrefl _)
      | cons c behind =>
        rw [hBehind] at hHead hParts
        obtain rfl : c = ')' := by simpa using hHead
        refine ⟨_, behind, hParts.symm, (Option.some.inj h).symm, ?_, by simpa using hSome⟩
        intro hMem
        simpa using List.all_eq_true.1 List.all_takeWhile _ hMem
    · cases h
  · rintro ⟨arguments, behind, rfl, rfl, hArguments, hSome⟩
    have hAll : ∀ c ∈ arguments, decide (c ≠ ')') = true := by
      intro c hc
      exact decide_eq_true (ne_of_mem_of_not_mem hc hArguments)
    have hTake : (arguments ++ ')' :: behind).takeWhile (· ≠ ')') = arguments := by
      rw [List.takeWhile_append_of_pos hAll]
      simp
    rw [hTake, if_pos ⟨by simpa using hSome, by simp⟩]

/-- The literals that a text begins with are those of the pattern. -/
theorem colorAt?_eq_some_iff {s literal : List Char} :
    colorAt? s = some literal ↔ ∃ behind, s = literal ++ behind ∧ IsLiteralBefore literal behind := by
  constructor
  · intro h
    unfold colorAt? at h
    split at h
    · obtain ⟨digits, behind, rfl, rfl, hDigits, hLength, hEnd⟩ := hexColor?_eq_some_iff.1 h
      exact ⟨behind, rfl, .hex hDigits hLength hEnd⟩
    · obtain ⟨text, hText, rfl⟩ := Option.map_eq_some_iff.1 h
      obtain ⟨arguments, behind, rfl, rfl, hArguments, hSome⟩ := colorArguments?_eq_some_iff.1 hText
      exact ⟨behind, by simp, .function false hArguments hSome⟩
    · obtain ⟨text, hText, rfl⟩ := Option.map_eq_some_iff.1 h
      obtain ⟨arguments, behind, rfl, rfl, hArguments, hSome⟩ := colorArguments?_eq_some_iff.1 hText
      exact ⟨behind, by simp, .function true hArguments hSome⟩
    · cases h
  · rintro ⟨behind, rfl, hBefore⟩
    cases hBefore with
    | hex hDigits hLength hEnd =>
      rw [List.cons_append, colorAt?]
      exact hexColor?_eq_some_iff.2 ⟨_, behind, rfl, rfl, hDigits, hLength, hEnd⟩
    | @function alpha arguments _ hArguments hSome =>
      have hText : colorArguments? (arguments ++ ')' :: behind) = some (arguments ++ [')']) :=
        colorArguments?_eq_some_iff.2 ⟨arguments, behind, rfl, rfl, hArguments, hSome⟩
      cases alpha <;> simp [Color.functionName, colorAt?, hText]

/-- What is found in a text fits the pattern there. -/
theorem exists_of_mem_colorsFrom {skip : Nat} {s : List Char} {text : String}
    (h : text ∈ colorsFrom skip s) :
    ∃ front behind, s = front ++ (text.toList ++ behind) ∧ IsLiteralBefore text.toList behind := by
  fun_induction colorsFrom skip s with
  | case1 => simp at h
  | case2 c s skip ih =>
    obtain ⟨front, behind, rfl, hBefore⟩ := ih h
    exact ⟨c :: front, behind, rfl, hBefore⟩
  | case3 c s literal hLiteral ih =>
    rcases List.mem_cons.1 h with rfl | h
    · obtain ⟨behind, hText, hBefore⟩ := colorAt?_eq_some_iff.1 hLiteral
      rw [String.toList_ofList]
      exact ⟨[], behind, hText, hBefore⟩
    · obtain ⟨front, behind, rfl, hBefore⟩ := ih h
      exact ⟨c :: front, behind, rfl, hBefore⟩
  | case4 c s hNone ih =>
    obtain ⟨front, behind, rfl, hBefore⟩ := ih h
    exact ⟨c :: front, behind, rfl, hBefore⟩

theorem IsLiteralBefore.exists_color {literal behind : List Char}
    (h : IsLiteralBefore literal behind) :
    ∃ color : Color, color.literal = String.ofList literal := by
  cases h with
  | @hex digits _ hDigits hLength hEnd => exact ⟨.hex digits hDigits, rfl⟩
  | @function alpha arguments _ hArguments hSome => exact ⟨.function alpha arguments hArguments, rfl⟩

theorem exists_color_of_mem_colorsFrom {skip : Nat} {s : List Char} {text : String}
    (h : text ∈ colorsFrom skip s) : ∃ color : Color, color.literal = text := by
  obtain ⟨front, behind, -, hBefore⟩ := exists_of_mem_colorsFrom h
  obtain ⟨color, hColor⟩ := hBefore.exists_color
  exact ⟨color, hColor.trans String.ofList_toList⟩

/-! ## Names of colors -/

theorem nameParts_concat (arguments : List Char) :
    nameParts (arguments ++ [')']) = nameParts arguments := by
  simp [nameParts]

theorem colorName_hex {digits : List Char} {h : ∀ c ∈ digits, isHexDigit c = true} :
    colorName (Color.hex digits h).literal = "color_" ++ lowercase (String.ofList digits) := by
  rw [Color.literal, colorName, String.toList_ofList]
  rfl

theorem colorName_function {alpha : Bool} {arguments : List Char} {h : ')' ∉ arguments} :
    colorName (Color.function alpha arguments h).literal =
      joined "_" ("color" :: Color.functionName alpha :: nameParts arguments) := by
  have hName : lowercase (Color.functionName alpha) = Color.functionName alpha := by
    cases alpha <;> decide
  have hAll : ∀ c ∈ (Color.functionName alpha).toList, decide (c ≠ '(') = true := by
    cases alpha <;> simp [Color.functionName]
  have hHead : (Color.functionName alpha).toList.head? = some 'r' := by
    cases alpha <;> rfl
  rw [Color.literal, colorName, String.toList_ofList]
  split
  · next digits hText =>
    have hBoth := congrArg List.head? hText
    rw [List.head?_append, hHead, List.head?_cons] at hBoth
    exact absurd (Option.some.inj hBoth) (by decide)
  · rw [List.takeWhile_append_of_pos hAll, List.dropWhile_append_of_pos hAll]
    simp [hName, nameParts_concat]

theorem isPlain_of_isWord {c : Char} (h : isWord c = true) : isPlain c = true :=
  isPlain_of_codes (by decide +kernel) h

/-- A hexadecimal digit in lower case is one character. -/
theorem lowerChar_of_isHexDigit {c : Char} (h : isHexDigit c = true) :
    c ≠ 'Σ' ∧ ∀ d ∈ lowerChar c, isHexDigit d = true := by
  have hBoth := of_isHexDigit (p := fun c => c ≠ 'Σ' && (lowerChar c).all isHexDigit) (by decide) h
  simpa using hBoth

theorem lowercaseFrom_hex {digits : List Char} (h : ∀ c ∈ digits, isHexDigit c = true)
    (before : List Char) : lowercaseFrom before digits = digits.flatMap lowerChar := by
  induction digits generalizing before with
  | nil => rfl
  | cons c digits ih =>
    have hSigma := (lowerChar_of_isHexDigit (h c List.mem_cons_self)).1
    rw [lowercaseFrom_cons_of_ne_sigma hSigma, List.flatMap_cons,
      ih fun d hd => h d (List.mem_cons_of_mem _ hd)]

theorem isHexDigit_of_mem_lowercase {digits : List Char} (h : ∀ c ∈ digits, isHexDigit c = true) :
    ∀ d ∈ (lowercase (String.ofList digits)).toList, isHexDigit d = true := by
  intro d hd
  rw [lowercase, String.toList_ofList, String.toList_ofList, lowercaseFrom_hex h] at hd
  obtain ⟨c, hc, hd⟩ := List.mem_flatMap.1 hd
  exact (lowerChar_of_isHexDigit (h c hc)).2 d hd

theorem isWordText_lowercase_hex {digits : List Char} (h : ∀ c ∈ digits, isHexDigit c = true) :
    IsWordText (lowercase (String.ofList digits)) := fun d hd =>
  of_isHexDigit (by decide) (isHexDigit_of_mem_lowercase h d hd)

theorem isWordText_joined {sep : String} (hs : IsWordText sep) {parts : List String}
    (h : ∀ part ∈ parts, IsWordText part) : IsWordText (joined sep parts) := by
  induction parts with
  | nil => exact (by decide : IsWordText "")
  | cons part parts ih =>
      have hParts := ih fun other hOther => h other (by simp [hOther])
      cases parts with
      | nil => simpa [joined] using h part (by simp)
      | cons next parts =>
          rw [joined, String.intercalate_cons_cons]
          exact isWordText_append (isWordText_append (h part (by simp)) hs) hParts

theorem isWordText_nameParts (arguments : List Char) :
    ∀ part ∈ nameParts arguments, IsWordText part := by
  intro part hPart
  obtain ⟨piece, -, rfl⟩ := List.mem_map.1 (List.mem_filter.1 hPart).1
  intro c hc
  rw [String.toList_ofList] at hc
  exact isPlain_of_isWord (List.mem_filter.1 hc).2

theorem isWordText_functionName (alpha : Bool) : IsWordText (Color.functionName alpha) := by
  cases alpha <;> decide

theorem isWordText_colorName_literal (color : Color) : IsWordText (colorName color.literal) := by
  cases color with
  | hex digits hDigits =>
    rw [colorName_hex]
    exact isWordText_append (by decide) (isWordText_lowercase_hex hDigits)
  | function alpha arguments hArguments =>
    rw [colorName_function]
    refine isWordText_joined (by decide) (List.forall_mem_cons.2 ⟨by decide, ?_⟩)
    exact List.forall_mem_cons.2 ⟨isWordText_functionName alpha, isWordText_nameParts arguments⟩

/-! ## The colors of a document -/

/-- The color literals in the values of the attributes of a document, in order. -/
def colorLiterals (root : Element) : List String :=
  root.elements.flatMap fun e => e.attributes.flatMap fun a => colorsIn a.value

theorem exists_color_of_mem_colorLiterals {root : Element} {text : String}
    (h : text ∈ colorLiterals root) : ∃ color : Color, color.literal = text := by
  obtain ⟨e, -, hAttributes⟩ := List.mem_flatMap.1 h
  obtain ⟨a, -, hText⟩ := List.mem_flatMap.1 hAttributes
  exact exists_color_of_mem_colorsFrom hText

/-- The constant of a name holds the first literal that has the name. -/
theorem mem_colors_iff {root : Element} {name text : String} :
    (name, text) ∈ colors root ↔ (colorLiterals root).find? (colorName · = name) = some text := by
  rw [colors, OrderedMap.mem_foldl_putNew_iff]
  simp [colorLiterals]

theorem eq_colorName_of_mem_colors {root : Element} {constant : String × String}
    (h : constant ∈ colors root) :
    constant.2 ∈ colorLiterals root ∧ constant.1 = colorName constant.2 := by
  have hFirst := mem_colors_iff.1 h
  have hName := List.find?_some (p := (colorName · = constant.1)) hFirst
  exact ⟨List.mem_of_find?_eq_some hFirst, (of_decide_eq_true hName).symm⟩

/-! ## Reading the constants -/

/-- What the definition of a constant is read as. -/
def constantTokens (constant : String × String) : List Token :=
  [.word "val".toList, .word constant.1.toList, .word "=".toList, .literal constant.2.toList]

/-- What the object of some constants is read as. -/
def objectTokens (constants : List (String × String)) : List Token :=
  if constants = [] then []
  else .word "object".toList :: .word "Colors:".toList :: constants.flatMap constantTokens

theorem tokens?_constantLine {constant : String × String} (h : IsWordText constant.1)
    (hne : constant.1 ≠ "") :
    tokens? (constantLine constant).toList = some (constantTokens constant) := by
  have hHead : scan (.code []) (constantMargin ++ "val ").toList =
      some ([.word "val".toList], .code []) := by decide
  have hAssign : scan (.code []) "= ".toList = some ([.word "=".toList], .code []) := by decide
  have hAll := scan_append_eq_some (scan_append_eq_some (scan_append_eq_some hHead
    (scan_word_blank h hne)) hAssign) (scan_quote [] constant.2)
  have hText : constantLine constant =
      constantMargin ++ "val " ++ (constant.1 ++ " ") ++ "= " ++ Literal.quote constant.2 := by
    have hEquals : " = " = " " ++ "= " := by decide
    rw [constantLine, hEquals]
    simp only [String.append_assoc]
  rw [hText, String.toList_append, String.toList_append, String.toList_append]
  exact (ends_of_scan hAll).tokens?_eq

/-- Lines that are read one by one. -/
theorem tokens?_joined {α : Type} {text : α → String} {read : α → List Token} {as : List α}
    (h : ∀ a ∈ as, tokens? (text a).toList = some (read a)) :
    tokens? (joined "\n" (as.map text)).toList = some (as.flatMap read) := by
  induction as with
  | nil => rfl
  | cons a as ih =>
      have hRest := ih fun b hb => h b (by simp [hb])
      cases as with
      | nil => simpa [joined] using h a (by simp)
      | cons next as =>
          rw [joined, List.map_cons, List.map_cons, String.intercalate_cons_cons,
            String.toList_append, String.toList_append, List.append_assoc]
          have hLine := tokens?_line_append (h a (by simp))
            (joined "\n" ((next :: as).map text)).toList
          rw [hRest] at hLine
          exact hLine

theorem isWordText_of_mem_colors {root : Element} {constant : String × String}
    (h : constant ∈ colors root) : IsWordText constant.1 := by
  obtain ⟨hLiteral, hName⟩ := eq_colorName_of_mem_colors h
  obtain ⟨color, hColor⟩ := exists_color_of_mem_colorLiterals hLiteral
  rw [hName, ← hColor]
  exact isWordText_colorName_literal color

theorem colorName_ne_empty (color : String) : colorName color ≠ "" := by
  intro h
  have hText := congrArg String.toList h
  unfold colorName at hText
  split at hText
  · simp at hText
  · simp [joined_cons] at hText

theorem ne_empty_of_mem_colors {root : Element} {constant : String × String}
    (h : constant ∈ colors root) : constant.1 ≠ "" := by
  rw [(eq_colorName_of_mem_colors h).2]
  exact colorName_ne_empty constant.2

/-- The object of the colors of a document is read back. -/
theorem tokens?_colorConstants (root : Element) :
    tokens? (colorConstants root).toList = some (objectTokens (colors root)) := by
  rw [colorConstants]
  cases hColors : colors root with
  | nil => rfl
  | cons first rest =>
      have hLines : tokens? (joined "\n" ((first :: rest).map constantLine)).toList =
          some ((first :: rest).flatMap constantTokens) := by
        refine tokens?_joined fun constant hConstant => ?_
        rw [← hColors] at hConstant
        exact tokens?_constantLine (isWordText_of_mem_colors hConstant)
          (ne_empty_of_mem_colors hConstant)
      have hComment : tokens? "// Color constants used in this SVG".toList = some [] := by decide
      have hObject : tokens? "object Colors:".toList =
          some [.word "object".toList, .word "Colors:".toList] := by decide
      have hText : (joined "\n" (["// Color constants used in this SVG", "object Colors:"] ++
          (first :: rest).map constantLine)).toList =
          "// Color constants used in this SVG".toList ++ '\n' :: ("object Colors:".toList ++
            '\n' :: (joined "\n" ((first :: rest).map constantLine)).toList) := by
        rw [joined, joined, List.cons_append, List.cons_append, List.nil_append, List.map_cons,
          String.intercalate_cons_cons, String.intercalate_cons_cons]
        simp only [String.toList_append, List.append_assoc]
        rfl
      rw [hText, tokens?_line_append hComment, tokens?_line_append hObject, hLines]
      rfl

/-- Behind the call of the root only the colors have literals. -/
theorem tokens?_closing (settings : Settings) (root : Element) :
    tokens? (closing settings root).toList =
      some (if settings.colorConstants then
        (objectTokens (colors root)).map (Token.reindent memberMargin.toList) else []) := by
  have hColors := tokens?_colorConstants root
  have hMargin : IsMargin memberMargin.toList := by decide
  have hIndented := tokens?_indented hMargin hColors
  rw [closing, colorLines]
  by_cases hChosen : settings.colorConstants = true
  · by_cases hEmpty : colorConstants root = ""
    · rw [hEmpty] at hColors
      obtain hNil : [] = objectTokens (colors root) := Option.some.inj hColors
      rw [if_neg (by simp [hEmpty]), if_pos hChosen, ← hNil]
      rfl
    · have hText : (String.join (["", indented memberMargin (colorConstants root)].map
          ("\n" ++ ·)) ++ "\n").toList =
          '\n' :: '\n' :: ((indented memberMargin (colorConstants root)).toList ++ '\n' :: []) := by
        simp
      have hLine : tokens? ([] : List Char) = some [] := rfl
      have hSkip (s : List Char) : tokens? ('\n' :: s) = tokens? s := by
        simpa using tokens?_line_append hLine s
      rw [if_pos ⟨hChosen, hEmpty⟩, if_pos hChosen, hText, hSkip, hSkip,
        tokens?_line_append hIndented, hLine]
      simp
  · rw [if_neg (by simp [hChosen]), if_neg hChosen]
    rfl

theorem literalsOf_objectTokens (constants : List (String × String)) :
    literalsOf (objectTokens constants) = constants.map (·.2.toList) := by
  have hAll : literalsOf (constants.flatMap constantTokens) = constants.map (·.2.toList) := by
    induction constants with
    | nil => rfl
    | cons constant constants ih =>
        rw [List.flatMap_cons, literalsOf_append, ih]
        rfl
  unfold objectTokens
  split
  · next h => simp [h]
  · exact hAll

end SvgBuilder
