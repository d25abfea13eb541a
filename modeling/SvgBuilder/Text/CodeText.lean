import SvgBuilder.Number.Digits
import SvgBuilder.Text.Quoted

/-!
# Texts of code points

Some code points are no characters: the surrogates, which only mean something in pairs.  A text can
hold them all the same.  An escape in a text of settings can name one, and a byte in the name of a
file that does not belong to a character is read as one.  Such a text can be kept and compared, but
UTF-8 cannot write it.

## Main results

* `shown_ofString`: a text of characters is shown as it is.
* `ofString_shown`: a text of characters is known by what is shown.
* `loneRun?_eq_none_iff`: exactly the texts of characters can be written.
-/

namespace SvgBuilder.Text

open SvgBuilder.Number

/-- A text of code points, of which some need not be characters. -/
structure CodeText where
  codes : List Nat
  deriving DecidableEq, Repr

namespace CodeText

/-- The code points of a text of characters. -/
def ofString (s : String) : CodeText := ⟨s.toList.map Char.toNat⟩

instance : Coe String CodeText := ⟨ofString⟩

instance : Append CodeText := ⟨fun s t => ⟨s.codes ++ t.codes⟩⟩

instance : LT CodeText := ⟨fun s t => s.codes < t.codes⟩

instance : DecidableLT CodeText := fun s t => inferInstanceAs (Decidable (s.codes < t.codes))

/-- The texts with the separator between them. -/
def joined (sep : CodeText) (parts : List CodeText) : CodeText :=
  ⟨List.intercalate sep.codes (parts.map codes)⟩

/-- Whether all code points are characters. -/
def isWhole (t : CodeText) : Bool := t.codes.all (·.isValidChar)

/-! ## As a text of characters -/

/-- A code point as a character; one that is none counts as the replacement character. -/
def codeChar (code : Nat) : Char := if code.isValidChar then Char.ofNat code else '\uFFFD'

/-- The text with replacement characters for code points that are no characters. -/
def shown (t : CodeText) : String := String.ofList (t.codes.map codeChar)

/-- The text with escapes for code points that are no characters. -/
def escaped (t : CodeText) : String :=
  String.ofList (t.codes.flatMap fun code =>
    if code.isValidChar then [Char.ofNat code] else codeEscape code)

/-- The text in quotes. -/
def quoted (t : CodeText) : String := quotedCodes t.codes

/-! ## As bytes -/

/-- Whether a code point stands for a byte of a name that does not belong to a character. -/
def isByte (code : Nat) : Bool := 0xDC80 ≤ code && code ≤ 0xDCFF

/-- The number of bytes of a name. -/
def size (t : CodeText) : Nat :=
  t.codes.foldl (fun n code => n + if code.isValidChar then (Char.ofNat code).utf8Size else 1) 0

/-- Code points in a row that cannot be written: where the first one stands, how many there are, and
the first one. -/
structure LoneRun where
  place : Nat
  count : Nat
  code : Nat
  deriving DecidableEq, Repr

/-- Why the code points cannot be written, in words. -/
def LoneRun.message (run : LoneRun) : String :=
  let which :=
    if run.count = 1 then
      "character '" ++ String.ofList (codeEscape run.code) ++ "' in position " ++
        integerText run.place
    else
      "characters in position " ++ integerText run.place ++ "-" ++
        integerText (run.place + run.count - 1)
  "'utf-8' codec can't encode " ++ which ++ ": surrogates not allowed"

/-- The first code points of a text that cannot be written.  `passes` tells which ones can although
they are no characters; `place` is where the text begins. -/
def firstLone? (passes : Nat → Bool) (place : Nat) : List Nat → Option LoneRun
  | [] => none
  | code :: codes =>
    if code.isValidChar || passes code then firstLone? passes (place + 1) codes
    else some ⟨place, (codes.takeWhile (!decide ·.isValidChar)).length + 1, code⟩

/-- The first code points of a text that UTF-8 cannot write. -/
def loneRun? (t : CodeText) : Option LoneRun := firstLone? (fun _ => false) 0 t.codes

/-- The first code points of a name that stand for no bytes. -/
def loneRunInName? (t : CodeText) : Option LoneRun := firstLone? isByte 0 t.codes

/-! ## Texts of characters -/

theorem codes_append (s t : CodeText) : (s ++ t).codes = s.codes ++ t.codes := rfl

theorem ext {s t : CodeText} (h : s.codes = t.codes) : s = t := by
  cases s
  cases t
  exact congrArg mk h

theorem isValidChar_toNat (c : Char) : c.toNat.isValidChar := c.valid

theorem toNat_ofNat {code : Nat} (h : code.isValidChar) : (Char.ofNat code).toNat = code := by
  rw [Char.ofNat, dif_pos h]
  rfl

@[simp] theorem codeChar_toNat (c : Char) : codeChar c.toNat = c := by
  rw [codeChar, if_pos (isValidChar_toNat c), Char.ofNat_toNat]

@[simp] theorem map_codeChar_toNat (s : List Char) : (s.map Char.toNat).map codeChar = s := by
  simp [Function.comp_def]

theorem toList_shown (t : CodeText) : t.shown.toList = t.codes.map codeChar := by
  rw [shown, String.toList_ofList]

@[simp] theorem shown_ofString (s : String) : (ofString s).shown = s := by
  rw [shown, ofString, map_codeChar_toNat, String.ofList_toList]

@[simp] theorem isWhole_ofString (s : String) : (ofString s).isWhole = true := by
  simp [isWhole, ofString, isValidChar_toNat]

theorem ofString_inj {s t : String} : ofString s = ofString t ↔ s = t := by
  refine ⟨fun h => ?_, congrArg ofString⟩
  rw [← shown_ofString s, h, shown_ofString]

@[simp] theorem shown_append (s t : CodeText) : (s ++ t).shown = s.shown ++ t.shown := by
  simp [shown, codes_append]

@[simp] theorem isWhole_append (s t : CodeText) :
    (s ++ t).isWhole = (s.isWhole && t.isWhole) := by
  simp [isWhole, codes_append]

theorem ofString_shown {t : CodeText} (h : t.isWhole = true) : ofString t.shown = t := by
  apply ext
  rw [isWhole, List.all_eq_true] at h
  rw [ofString, shown, String.toList_ofList, List.map_map]
  refine (List.map_congr_left fun code hCode => ?_).trans (List.map_id t.codes)
  have hValid : code.isValidChar := by simpa using h code hCode
  simp [codeChar, hValid, toNat_ofNat hValid]

theorem loneRun?_eq_none_iff {t : CodeText} : t.loneRun? = none ↔ t.isWhole = true := by
  rw [loneRun?, isWhole]
  generalize 0 = place
  induction t.codes generalizing place with
  | nil => simp [firstLone?]
  | cons code codes ih =>
    rw [firstLone?, List.all_cons]
    by_cases h : code.isValidChar
    · simp [h, ih]
    · simp [h]

end CodeText

end SvgBuilder.Text
