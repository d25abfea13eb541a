import SvgBuilder.Proofs.Component.Color
import SvgBuilder.Proofs.Text.Blank
import SvgBuilder.Proofs.Text.Split

/-!
# Which colors share a constant

The name of a constant keeps the digits of a color or the function and the word characters of its
arguments, so that colors that differ in anything else share a constant, which holds the first of
them.  No name keeps a comma, a sign, a decimal point or a percent sign.  Arguments that can be told
from their word characters are those of plain colors: there the point of a fraction below one is put
back behind the zero, and nothing else is lost but blanks.

## Main results

* `colorName_eq_iff`: two colors have one name exactly if it keeps the same of both.
* `kept_eq_iff_of_isPlain`: plain colors have one name exactly if they are spelled alike.
* `colors_share_names`: the constants of a document.
-/

namespace SvgBuilder

open SvgBuilder.Markup SvgBuilder.Text

/-! ## What a name keeps -/

namespace Color

/-- What the name of a color keeps of it: which function it is, if it is one, and the digits in
lower case or the word characters of each argument that has some, behind an underscore. -/
def kept : Color → Option Bool × String
  | hex digits _ => (none, lowercase (String.ofList digits))
  | function alpha arguments _ => (some alpha, String.join ((nameParts arguments).map ("_" ++ ·)))

/-- What the name of a color goes on with behind the first underscore. -/
def nameRest : Option Bool × String → String
  | (none, digits) => digits
  | (some alpha, parts) => functionName alpha ++ parts

end Color

theorem colorName_literal (color : Color) :
    colorName color.literal = "color_" ++ Color.nameRest color.kept := by
  cases color with
  | hex digits h => exact colorName_hex
  | function alpha arguments h =>
    have hFront : "color_" = "color" ++ "_" := by decide
    rw [colorName_function, joined_cons, List.map_cons, String.join_cons, hFront, String.append_assoc,
      String.append_assoc]
    rfl

theorem head?_join_parts {parts : List String} {c : Char}
    (h : c ∈ (String.join (parts.map ("_" ++ ·))).toList.head?) : c = '_' := by
  cases parts with
  | nil => exact nomatch h
  | cons part parts =>
    rw [List.map_cons, String.join_cons, String.append_assoc, String.toList_append] at h
    exact (Option.some.inj h).symm

theorem kept_function_ne_hex {digits arguments : List Char} {alpha : Bool}
    (hDigits : ∀ c ∈ digits, isHexDigit c = true) (hArguments : ')' ∉ arguments) :
    Color.nameRest (Color.hex digits hDigits).kept ≠
      Color.nameRest (Color.function alpha arguments hArguments).kept := by
  intro h
  have hHead : 'r' ∈ (Color.functionName alpha).toList := by
    cases alpha <;> decide
  have hMem : 'r' ∈ (lowercase (String.ofList digits)).toList := by
    have hText : lowercase (String.ofList digits) = Color.functionName alpha ++ _ := h
    rw [hText, String.toList_append]
    exact List.mem_append_left _ hHead
  exact absurd (isHexDigit_of_mem_lowercase hDigits _ hMem) (by decide)

theorem rgb_ne_rgba (ps qs : List String) :
    Color.functionName false ++ String.join (ps.map ("_" ++ ·)) ≠
      Color.functionName true ++ String.join (qs.map ("_" ++ ·)) := by
  intro h
  have hLonger : Color.functionName true = Color.functionName false ++ "a" := by decide
  rw [hLonger, String.append_assoc, String.append_right_inj] at h
  have hHead : 'a' ∈ (String.join (ps.map ("_" ++ ·))).toList.head? := by
    rw [h, String.toList_append]
    rfl
  exact absurd (head?_join_parts hHead) (by decide)

/-- Two colors have one name exactly if the name keeps the same of both. -/
theorem colorName_eq_iff (a b : Color) :
    colorName a.literal = colorName b.literal ↔ a.kept = b.kept := by
  rw [colorName_literal, colorName_literal, String.append_right_inj]
  refine ⟨fun h => ?_, congrArg Color.nameRest⟩
  -- a function begins with no digit, and what a name has behind a function with an underscore
  cases a with
  | hex digits hDigits =>
    cases b with
    | hex digits' hDigits' => exact congrArg (Prod.mk none) h
    | function alpha arguments hArguments => exact absurd h (kept_function_ne_hex hDigits hArguments)
  | function alpha arguments hArguments =>
    cases b with
    | hex digits hDigits => exact absurd h.symm (kept_function_ne_hex hDigits hArguments)
    | function alpha' arguments' hArguments' =>
      cases alpha <;> cases alpha'
      · exact congrArg (Prod.mk (some false)) ((String.append_right_inj _).1 h)
      · exact absurd h (rgb_ne_rgba _ _)
      · exact absurd h.symm (rgb_ne_rgba _ _)
      · exact congrArg (Prod.mk (some true)) ((String.append_right_inj _).1 h)

/-- A decimal point is lost, so that another color can have the name. -/
example : colorName "rgb(1.5, 2, 3)" = colorName "rgb(15, 2, 3)" := by decide +kernel

/-! ## Colors that are found in their names -/

/-- What the name keeps of an argument, with the decimal point of a fraction below one. -/
def restored : List Char → List Char
  | '0' :: c :: w => '0' :: '.' :: c :: w
  | w => w

/-- What the name keeps of the arguments of a color. -/
def keptArguments (arguments : List Char) : List (List Char) :=
  (splitAt ',' arguments).map (List.filter isWord)

namespace Color

/-- Whether what the name keeps of every argument is a part of it and, up to blanks, all of the
argument but the decimal point of a fraction below one. -/
def IsPlain : Color → Prop
  | hex _ _ => True
  | function _ arguments _ => ∀ argument ∈ splitAt ',' arguments,
    argument.filter isWord ≠ [] ∧ '_' ∉ argument ∧
      restored (argument.filter isWord) = argument.filter (!isBlank ·)

/-- A color up to blanks and the case of its digits. -/
def spelling : Color → Option Bool × String
  | hex digits _ => (none, lowercase (String.ofList digits))
  | function alpha arguments _ => (some alpha, String.ofList (arguments.filter (!isBlank ·)))

end Color

example : (Color.function true " 255, 0, 0, 0.5".toList (by decide)).IsPlain := by
  unfold Color.IsPlain
  decide +kernel

/-- Blanks are lost in a name. -/
theorem keptArguments_eq (arguments : List Char) :
    keptArguments arguments =
      (splitAt ',' (arguments.filter (!isBlank ·))).map (List.filter isWord) := by
  rw [splitAt_filter (by decide), List.map_map]
  refine List.map_congr_left fun argument _ => ?_
  rw [Function.comp_apply, List.filter_filter]
  refine List.filter_congr fun c _ => ?_
  cases hBlank : isBlank c with
  | false => rw [Bool.not_false, Bool.and_true]
  | true => rw [not_isWord_of_isBlank hBlank, Bool.false_and]

section Plain

variable {alpha : Bool} {arguments : List Char} {hArguments : ')' ∉ arguments}
  (hPlain : (Color.function alpha arguments hArguments).IsPlain)

include hPlain

/-- The arguments of a plain color up to blanks. -/
theorem map_restored_keptArguments :
    (keptArguments arguments).map restored = splitAt ',' (arguments.filter (!isBlank ·)) := by
  rw [splitAt_filter (by decide), keptArguments, List.map_map]
  exact List.map_congr_left fun argument hArgument => (hPlain argument hArgument).2.2

theorem nameParts_of_isPlain : nameParts arguments = (keptArguments arguments).map String.ofList := by
  have hEnd : arguments.reverse.dropWhile (· = ')') = arguments.reverse := by
    cases hReverse : arguments.reverse with
    | nil => rfl
    | cons c s =>
      have hMem : c ∈ arguments := by
        rw [← List.mem_reverse, hReverse]
        exact List.mem_cons_self
      refine List.dropWhile_cons_of_neg fun hc => hArguments ?_
      rwa [of_decide_eq_true hc] at hMem
  have hSome : ∀ word ∈ (splitAt ',' arguments).map (fun part => String.ofList (part.filter isWord)),
      decide (word ≠ "") = true := by
    rw [List.forall_mem_map]
    intro argument hArgument
    refine decide_eq_true fun hNil => (hPlain argument hArgument).1 ?_
    rw [← String.toList_ofList (l := argument.filter isWord), hNil]
    rfl
  rw [nameParts, hEnd, List.reverse_reverse, List.filter_eq_self.2 hSome, keptArguments, List.map_map]
  rfl

/-- What the name keeps of the arguments of a plain color is found in it again. -/
theorem splitAt_kept_of_isPlain :
    splitAt '_' (Color.function alpha arguments hArguments).kept.2.toList =
      [] :: keptArguments arguments := by
  have hKept : (Color.function alpha arguments hArguments).kept.2 =
      joined "_" ("" :: (keptArguments arguments).map String.ofList) := by
    rw [joined_cons, String.empty_append, ← nameParts_of_isPlain hPlain]
    rfl
  have hTexts : ((keptArguments arguments).map String.ofList).map String.toList =
      keptArguments arguments := by
    rw [List.map_map]
    exact (List.map_congr_left fun argument _ => String.toList_ofList).trans (List.map_id _)
  have hScore : ∀ word ∈ keptArguments arguments, '_' ∉ word := by
    rw [keptArguments, List.forall_mem_map]
    exact fun argument hArgument hMem =>
      (hPlain argument hArgument).2.1 (List.mem_filter.1 hMem).1
  rw [hKept, joined, String.toList_intercalate, List.map_cons, hTexts]
  exact splitAt_intercalate (List.cons_ne_nil _ _)
    (List.forall_mem_cons.2 ⟨List.not_mem_nil, hScore⟩)

end Plain

/-- Plain colors have one name exactly if they are spelled alike. -/
theorem kept_eq_iff_of_isPlain {a b : Color} (ha : a.IsPlain) (hb : b.IsPlain) :
    a.kept = b.kept ↔ a.spelling = b.spelling := by
  cases a with
  | hex digits hDigits =>
    cases b with
    | hex digits' hDigits' => exact Iff.rfl
    | function alpha arguments hArguments => simp [Color.kept, Color.spelling]
  | function alpha arguments hArguments =>
    cases b with
    | hex digits hDigits => simp [Color.kept, Color.spelling]
    | function alpha' arguments' hArguments' =>
      constructor
      · intro h
        have hAlpha : some alpha = some alpha' := congrArg Prod.fst h
        have hSplit := splitAt_kept_of_isPlain ha
        rw [h, splitAt_kept_of_isPlain hb] at hSplit
        have hPieces := congrArg (List.map restored) (List.cons.inj hSplit).2
        rw [map_restored_keptArguments ha, map_restored_keptArguments hb] at hPieces
        have hText := congrArg (List.intercalate [',']) hPieces
        rw [intercalate_splitAt, intercalate_splitAt] at hText
        rw [Color.spelling, Color.spelling, hAlpha, hText]
      · intro h
        have hAlpha : some alpha = some alpha' := congrArg Prod.fst h
        have hText : arguments.filter (!isBlank ·) = arguments'.filter (!isBlank ·) :=
          String.ofList_injective (congrArg Prod.snd h)
        rw [Color.kept, Color.kept, hAlpha, nameParts_of_isPlain ha, nameParts_of_isPlain hb,
          keptArguments_eq arguments, keptArguments_eq arguments', hText]

/-! ## Equality up to case and blanks -/

/-- A text without its blanks, in lower case. -/
def foldedText (s : String) : String := lowercase (String.ofList (s.toList.filter (!isBlank ·)))

theorem foldedText_hex {digits : List Char} (h : ∀ c ∈ digits, isHexDigit c = true) :
    foldedText (Color.hex digits h).literal = "#" ++ lowercase (String.ofList digits) := by
  have hDigits : digits.filter (!isBlank ·) = digits :=
    List.filter_eq_self.2 fun c hc => of_isHexDigit (p := (!isBlank ·)) (by decide) (h c hc)
  have hSharp : lowercaseFrom [] ('#' :: digits) = '#' :: lowercaseFrom [] digits := by
    rw [lowercaseFrom_cons_of_ne_sigma (by decide), lowercaseFrom_hex h, lowercaseFrom_hex h]
    rfl
  rw [foldedText, Color.literal, String.toList_ofList, List.filter_cons_of_pos (by decide), hDigits,
    lowercase, lowercase, String.toList_ofList, String.toList_ofList, hSharp,
    ← List.singleton_append, String.ofList_append]

/-- Colors that are spelled alike are equal up to case and blanks. -/
theorem foldedText_eq_of_spelling_eq {a b : Color} (h : a.spelling = b.spelling) :
    foldedText a.literal = foldedText b.literal := by
  cases a with
  | hex digits hDigits =>
    cases b with
    | hex digits' hDigits' =>
      have hLower : lowercase (String.ofList digits) = lowercase (String.ofList digits') :=
        congrArg Prod.snd h
      rw [foldedText_hex, foldedText_hex, hLower]
    | function alpha arguments hArguments => exact nomatch congrArg Prod.fst h
  | function alpha arguments hArguments =>
    cases b with
    | hex digits hDigits => exact nomatch congrArg Prod.fst h
    | function alpha' arguments' hArguments' =>
      obtain rfl : alpha = alpha' := Option.some.inj (congrArg Prod.fst h)
      have hText : arguments.filter (!isBlank ·) = arguments'.filter (!isBlank ·) :=
        String.ofList_injective (congrArg Prod.snd h)
      rw [foldedText, foldedText, Color.literal, Color.literal, String.toList_ofList,
        String.toList_ofList]
      simp [List.filter_append, List.filter_cons, hText]

/-! ## The constants of a document -/

/-- Which colors of a document share a constant.  Every literal has one of the two forms, and two of
them have one name exactly if the name keeps the same of both.  So a hexadecimal color shares its
name only with those that have the same digits up to their case, and no function with another one;
but of the arguments all is lost that stands in no word, and so are arguments without a word and the
places of underscores.  The names of the constants are different, and each constant holds the first
color that has its name.  Plain colors have one name only if they are equal up to case and blanks,
and if all colors of a document are plain, there is exactly one constant for every one of them. -/
theorem colors_share_names (root : Element) :
    (∀ text ∈ colorLiterals root, ∃ color : Color, color.literal = text) ∧
    (∀ a b : Color, colorName a.literal = colorName b.literal ↔ a.kept = b.kept) ∧
    ((colors root).map (·.1)).Nodup ∧
    (∀ name text, (name, text) ∈ colors root ↔
      (colorLiterals root).find? (colorName · = name) = some text) ∧
    (∀ a b : Color, a.IsPlain → b.IsPlain → colorName a.literal = colorName b.literal →
      foldedText a.literal = foldedText b.literal) ∧
    ((∀ color : Color, color.literal ∈ colorLiterals root → color.IsPlain) →
      ∀ color : Color, color.literal ∈ colorLiterals root →
        ∃! constant, constant ∈ colors root ∧
          ∃ other : Color, other.literal = constant.2 ∧ other.spelling = color.spelling) := by
  have hPlainName {a b : Color} (ha : a.IsPlain) (hb : b.IsPlain) :
      colorName a.literal = colorName b.literal ↔ a.spelling = b.spelling :=
    (colorName_eq_iff a b).trans (kept_eq_iff_of_isPlain ha hb)
  refine ⟨fun text => exists_color_of_mem_colorLiterals, colorName_eq_iff, ?_,
    fun name text => mem_colors_iff, ?_, ?_⟩
  · exact OrderedMap.nodup_keys_foldl_putNew colorName (colorLiterals root) List.nodup_nil
  · exact fun a b ha hb h => foldedText_eq_of_spelling_eq ((hPlainName ha hb).1 h)
  · intro hPlain color hColor
    have hSome : ((colorLiterals root).find? (colorName · = colorName color.literal)).isSome := by
      rw [List.find?_isSome]
      exact ⟨_, hColor, decide_eq_true rfl⟩
    obtain ⟨first, hFirst⟩ := Option.isSome_iff_exists.1 hSome
    have hConstant := mem_colors_iff.2 hFirst
    refine ⟨(colorName color.literal, first), ⟨hConstant, ?_⟩, ?_⟩
    · obtain ⟨hMem, hName⟩ := eq_colorName_of_mem_colors hConstant
      obtain ⟨other, rfl⟩ := exists_color_of_mem_colorLiterals hMem
      exact ⟨other, rfl, ((hPlainName (hPlain color hColor) (hPlain other hMem)).1 hName).symm⟩
    · -- a constant that is spelled like the color has its name, which only one constant has
      rintro ⟨name, text⟩ ⟨hOther, other, hLiteral, hSpelling⟩
      obtain ⟨hMem, hName⟩ := eq_colorName_of_mem_colors hOther
      dsimp only at hLiteral hMem hName
      subst hLiteral
      have hSame := (hPlainName (hPlain other hMem) (hPlain color hColor)).2 hSpelling
      rw [hName, hSame]
      have hFound := mem_colors_iff.1 hOther
      rw [hName, hSame, hFirst] at hFound
      rw [Option.some.inj hFound]

end SvgBuilder
