import SvgBuilder.Text.Case.Tables

/-!
# Upper and lower case

The full case maps of Unicode.  A capital sigma that ends a word becomes the final small sigma:
before it stands a cased letter and after it none, the ignorable characters passed over.

## Main results

* `lowercaseFrom_cons_of_ne_sigma`: every other character is mapped by itself.
-/

namespace SvgBuilder.Text

/-- The upper case of a character, as code points. -/
def upperCodes (c : Char) : List Nat :=
  if c.toNat < 128 then [c.toUpper.toNat]
  else
    match upperExpansions.lookup c.toNat with
    | some codes => codes
    | none => [CaseRun.imageIn upperRuns c.toNat]

/-- The upper case of a character. -/
def upperChar (c : Char) : List Char := (upperCodes c).map Char.ofNat

/-- The lower case of a character outside any word: of all characters only the capital I with a
dot becomes two. -/
def lowerChar (c : Char) : List Char :=
  if c.toNat < 128 then [c.toLower]
  else if c.toNat = 0x130 then ['i', Char.ofNat 0x307]
  else [Char.ofNat (CaseRun.imageIn lowerRuns c.toNat)]

/-! ## The two small sigmas -/

/-- Whether the first character that is not ignorable is a cased letter. -/
def meetsCased (s : List Char) : Bool :=
  ((s.dropWhile (caseIgnorableTable.has ·.toNat)).head?.map (casedTable.has ·.toNat)).getD false

/-- The lower case of a text.  `before` is what stands before it, in reverse. -/
def lowercaseFrom (before : List Char) : List Char → List Char
  | [] => []
  | c :: s =>
    (if c = 'Σ' then
      if meetsCased before && !meetsCased s then ['ς'] else ['σ']
    else lowerChar c) ++ lowercaseFrom (c :: before) s

/-- The text in lower case. -/
def lowercase (s : String) : String := String.ofList (lowercaseFrom [] s.toList)

theorem lowercaseFrom_cons_of_ne_sigma {before s : List Char} {c : Char} (h : c ≠ 'Σ') :
    lowercaseFrom before (c :: s) = lowerChar c ++ lowercaseFrom (c :: before) s := by
  simp [lowercaseFrom, h]

end SvgBuilder.Text
