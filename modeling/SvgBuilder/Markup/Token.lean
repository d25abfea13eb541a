import SvgBuilder.Markup.Character
import SvgBuilder.Markup.Progress
import SvgBuilder.Text.Search

/-!
# The smallest parts of markup

Readers for blanks, names, quoted texts, comments and processing instructions.  A reader takes
the text that is left and returns what it has read and the text behind it.

## Main definitions

* `readName`, `readQuoted`, `readComment`, `readInstruction`: the readers.
* `skipMisc`: passing over comments, processing instructions and blanks.
-/

namespace SvgBuilder.Markup

open SvgBuilder.Text

/-- The text without the blanks it begins with. -/
def skipSpace (s : List Char) : List Char := s.dropWhile isSpace

/-- Whether a text begins with a blank. -/
def beginsWithSpace (s : List Char) : Bool := s.head?.any isSpace

/-- The text behind the blanks that have to stand at its beginning. -/
def requireSpace (fault : Fault) (s : List Char) : Except Fault (List Char) :=
  match s with
  | c :: t => if isSpace c then .ok (skipSpace t) else .error fault
  | [] => .error fault

/-- The text behind a character that has to stand at its beginning. -/
def requireChar (fault : Fault) (c : Char) : List Char → Except Fault (List Char)
  | d :: s => if c = d then .ok s else .error fault
  | [] => .error fault

/-- The most bytes of a name. -/
def longestName : Nat := 50000

/-- Reads a name. -/
def readName (fault : Fault) : List Char → Except Fault (List Char × List Char)
  | c :: s =>
    let name := c :: s.takeWhile isNameChar
    if isNameStart c ∧ textSize name ≤ longestName then .ok (name, s.dropWhile isNameChar)
    else .error fault
  | [] => .error fault

/-- Reads a text in single or double quotes. -/
def readQuoted (fault : Fault) : List Char → Except Fault (List Char × List Char)
  | c :: s =>
    if c = '\x22' ∨ c = '\x27' then
      match upTo [c] s with
      | some result => .ok result
      | none => .error fault
    else .error fault
  | [] => .error fault

/-- Reads a comment behind its opening.  Two hyphens only stand at its end. -/
def readComment (s : List Char) : Except Fault (List Char × List Char) :=
  match upTo ['-', '-'] s with
  | some (content, '>' :: rest) => .ok (content, rest)
  | _ => .error .markup

/-! ## Processing instructions -/

/-- The name of the markup language, which no target may be and none should begin with. -/
def reservedTarget : List Char := "xml".toList

/-- The targets that begin with the reserved one and have a meaning. -/
def knownTargets : List (List Char) := ["xml-stylesheet".toList, "xml-model".toList]

/-- The problems of a target.  Letter case does not matter for the reserved one. -/
def targetProblems (target : List Char) : List Problem :=
  let reserved := (target.take 3).map Char.toLower = reservedTarget ∧ target ∉ knownTargets
  (if reserved then [.reservedTarget] else []) ++ if ':' ∈ target then [.colon] else []

/-- Reads a processing instruction behind its opening: its target and its data. -/
def readInstruction (s : List Char) :
    Except Fault ((List Char × List Char) × List Char) := do
  let (target, s) ← readName .markup s
  if target.map Char.toLower = reservedTarget then throw .markup
  match behind? "?>" s with
  | some rest => pure ((target, []), rest)
  | none =>
    let s ← requireSpace .markup s
    match upTo ['?', '>'] s with
    | some (data, rest) => pure ((target, data), rest)
    | none => throw .markup

/-- The text behind a processing instruction, whose problems are noted. -/
def skipInstruction (s : List Char) : Reading (List Char) := do
  let ((target, _), rest) ← readInstruction s
  (targetProblems target).forM note
  pure rest

/-- The text behind blanks, comments and processing instructions.  `steps` bounds their number. -/
def skipMisc : Nat → List Char → Reading (List Char)
  | 0, _ => throw .markup
  | steps + 1, s =>
    let s := skipSpace s
    match behind? "<!--" s with
    | some t => do
      let (_, rest) ← readComment t
      skipMisc steps rest
    | none =>
      match behind? "<?" s with
      | some t => do
        let rest ← skipInstruction t
        skipMisc steps rest
      | none => pure s

end SvgBuilder.Markup
