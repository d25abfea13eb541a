import SvgBuilder.Proofs.Component.Color

/-!
# The object of the colors

The colors of a document are declared in one object, each constant on a line of its own.  The
literal of a color may hold blanks, quotes and parentheses.  Its name holds none of these: behind
the word "color" come groups of word characters, each behind an underscore, and the name is one word
wherever it stands.

A literal whose name is taken declares nothing, so that no name is declared twice, each one stands
for the first literal that has it, and the declarations stand in the order of these literals.

## Main results

* `colorsFrom_eq_nil_iff`: no literal is found exactly where the pattern fits nowhere.
* `isConstantName_colorName`: the form of the names.
* `constants_declared`: what the object of the colors declares.
-/

namespace SvgBuilder

open SvgBuilder.Markup SvgBuilder.Text SvgBuilder.Source

/-! ## Literals that are found -/

/-- Whether the pattern of color literals fits somewhere in a text. -/
def HasColor (s : List Char) : Prop :=
  ∃ front literal behind, s = front ++ (literal ++ behind) ∧ IsLiteralBefore literal behind

/-- No literal is found exactly where the pattern fits nowhere. -/
theorem colorsFrom_eq_nil_iff {s : List Char} : colorsFrom 0 s = [] ↔ ¬HasColor s := by
  constructor
  · rintro hNone ⟨front, literal, behind, rfl, hBefore⟩
    have hFound := colorAt?_eq_some_iff.2 ⟨behind, rfl, hBefore⟩
    induction front with
    | nil =>
      cases hText : literal ++ behind with
      | nil =>
        rw [hText] at hFound
        cases hFound
      | cons c s =>
        rw [hText] at hFound
        rw [List.nil_append, hText, colorsFrom, hFound] at hNone
        cases hNone
    | cons c front ih =>
      -- the scan goes on from the next character, as it has found nothing here
      rw [List.cons_append, colorsFrom] at hNone
      split at hNone
      · cases hNone
      · exact ih hNone
  · intro hNowhere
    refine List.eq_nil_iff_forall_not_mem.2 fun text hText => hNowhere ?_
    obtain ⟨front, behind, hParts, hBefore⟩ := exists_of_mem_colorsFrom hText
    exact ⟨front, text.toList, behind, hParts, hBefore⟩

/-! ## Names of constants -/

/-- Whether a name is "color" with groups of word characters behind it, each behind an underscore.
-/
def IsConstantName (name : String) : Prop :=
  ∃ words : List String, name = "color" ++ String.join (words.map ("_" ++ ·)) ∧
    ∀ word ∈ words, word ≠ "" ∧ ∀ c ∈ word.toList, isWord c = true

theorem lowercase_hex_ne_empty {digits : List Char} (h : ∀ c ∈ digits, isHexDigit c = true)
    (hSome : digits ≠ []) : lowercase (String.ofList digits) ≠ "" := by
  obtain ⟨c, rest, rfl⟩ := List.exists_cons_of_ne_nil hSome
  have hFirst : decide (lowerChar c ≠ []) = true :=
    of_isHexDigit (p := fun c => decide (lowerChar c ≠ [])) (by decide) (h c List.mem_cons_self)
  intro hEmpty
  have hText := congrArg String.toList hEmpty
  rw [lowercase, String.toList_ofList, String.toList_ofList, lowercaseFrom_hex h,
    List.flatMap_cons] at hText
  exact of_decide_eq_true hFirst (List.append_eq_nil_iff.1 hText).1

/-- The name of a literal has the form of the names of constants. -/
theorem isConstantName_colorName {text : String} {behind : List Char}
    (h : IsLiteralBefore text.toList behind) : IsConstantName (colorName text) := by
  obtain ⟨literal, rfl⟩ : ∃ literal, String.ofList literal = text :=
    ⟨text.toList, String.ofList_toList⟩
  rw [String.toList_ofList] at h
  cases h with
  | @hex digits _ hDigits hLength hEnd =>
    have hSome : digits ≠ [] := List.ne_nil_of_length_pos (by omega)
    refine ⟨[lowercase (String.ofList digits)], ?_, ?_⟩
    · have hName := colorName_hex (h := hDigits)
      have hFront : "color_" = "color" ++ "_" := by decide
      rw [Color.literal] at hName
      rw [hName, hFront, String.append_assoc]
      simp
    · intro word hWord
      rw [List.mem_singleton.1 hWord]
      refine ⟨lowercase_hex_ne_empty hDigits hSome, fun c hc => ?_⟩
      exact of_isHexDigit (by decide) (isHexDigit_of_mem_lowercase hDigits c hc)
  | @function alpha arguments _ hArguments hSome =>
    have hName := @colorName_function alpha arguments hArguments
    rw [Color.literal] at hName
    refine ⟨Color.functionName alpha :: nameParts arguments, ?_, ?_⟩
    · rw [hName, joined_cons]
    · refine List.forall_mem_cons.2 ⟨?_, fun part hPart => ?_⟩
      · have hWord : (Color.functionName alpha).toList.all isWord = true := by
          cases alpha <;> decide
        exact ⟨by cases alpha <;> decide, List.all_eq_true.1 hWord⟩
      · obtain ⟨hMem, hNonempty⟩ := List.mem_filter.1 hPart
        refine ⟨by simpa using hNonempty, fun c hc => ?_⟩
        obtain ⟨piece, -, rfl⟩ := List.mem_map.1 hMem
        rw [String.toList_ofList] at hc
        exact (List.mem_filter.1 hc).2

/-! ## The constants of a document -/

theorem colors_eq (root : Element) : colors root =
    (colorLiterals root).foldl (fun m color => OrderedMap.putNew (colorName color) color m) [] := rfl

theorem mem_colorLiterals {root : Element} {text : String} :
    text ∈ colorLiterals root ↔
      ∃ e ∈ root.elements, ∃ a ∈ e.attributes, text ∈ colorsIn a.value := by
  simp [colorLiterals]

/-- The name of every literal is declared. -/
theorem colorName_mem_colors {root : Element} {text : String} (h : text ∈ colorLiterals root) :
    colorName text ∈ (colors root).map (·.1) := by
  rw [colors_eq]
  exact OrderedMap.mem_keys_foldl_putNew colorName h

/-- The names that are declared have the form of the names of constants. -/
theorem isConstantName_of_mem_colors {root : Element} {constant : String × String}
    (h : constant ∈ colors root) : IsConstantName constant.1 := by
  obtain ⟨hLiteral, hName⟩ := eq_colorName_of_mem_colors h
  obtain ⟨e, -, a, -, hFound⟩ := mem_colorLiterals.1 hLiteral
  obtain ⟨front, behind, -, hBefore⟩ := exists_of_mem_colorsFrom hFound
  rw [hName]
  exact isConstantName_colorName hBefore

/-- There is no object exactly where the pattern fits in no value of an attribute. -/
theorem colorConstants_eq_empty_iff {root : Element} :
    colorConstants root = "" ↔
      ∀ e ∈ root.elements, ∀ a ∈ e.attributes, ¬HasColor a.value.toList := by
  have hObject : colorConstants root = "" ↔ colors root = [] := by
    rw [colorConstants]
    split
    · next hNone => exact iff_of_true rfl hNone
    · next constants hSome =>
      refine iff_of_false (fun hEmpty => ?_) hSome
      rw [List.cons_append, joined_cons] at hEmpty
      exact absurd (String.append_eq_empty_iff.1 hEmpty).1 (by decide)
  have hColors : colors root = [] ↔ colorLiterals root = [] := by
    constructor
    · intro hNone
      refine List.eq_nil_iff_forall_not_mem.2 fun text hText => ?_
      have hName := colorName_mem_colors hText
      rw [hNone] at hName
      cases hName
    · intro hNone
      rw [colors_eq, hNone]
      rfl
  rw [hObject, hColors, colorLiterals]
  simp only [List.flatMap_eq_nil_iff, colorsIn, colorsFrom_eq_nil_iff]

/-- What the object of the colors declares.  It is read as one definition for each constant,
whatever the literals hold, as each name is one word.  No name is declared twice, all names have the
form of names of constants, every literal that is found in a value of an attribute has its name
declared, and a name stands for the first literal in the document that has it.  The declarations
stand in the order in which their literals come first, and there are none exactly where the pattern
of literals fits in no value of an attribute. -/
theorem constants_declared (root : Element) :
    tokens? (colorConstants root).toList = some (objectTokens (colors root)) ∧
    ((colors root).map (·.1)).Nodup ∧
    (∀ constant ∈ colors root, IsConstantName constant.1) ∧
    (∀ e ∈ root.elements, ∀ a ∈ e.attributes, ∀ text ∈ colorsIn a.value,
      colorName text ∈ (colors root).map (·.1)) ∧
    (∀ name text, (name, text) ∈ colors root ↔
      (colorLiterals root).find? (colorName · = name) = some text) ∧
    ((colors root).Pairwise fun first second =>
      (colorLiterals root).idxOf first.2 < (colorLiterals root).idxOf second.2) ∧
    (colorConstants root = "" ↔
      ∀ e ∈ root.elements, ∀ a ∈ e.attributes, ¬HasColor a.value.toList) := by
  refine ⟨tokens?_colorConstants root, ?_, fun _ => isConstantName_of_mem_colors, ?_,
    fun name text => mem_colors_iff, ?_, colorConstants_eq_empty_iff⟩
  · exact OrderedMap.nodup_keys_foldl_putNew colorName (colorLiterals root) List.nodup_nil
  · intro e he a ha text hText
    exact colorName_mem_colors (mem_colorLiterals.2 ⟨e, he, a, ha, hText⟩)
  · exact OrderedMap.pairwise_foldl_putNew colorName (colorLiterals root)

/-- A literal with a quote and a parenthesis has a name without them. -/
example : colorName "rgb(\x221, (2)" = "color_rgb_1_2" := by decide +kernel

end SvgBuilder
