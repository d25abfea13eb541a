import SvgBuilder.Text.Digit
import SvgBuilder.Text.LineEnd
import SvgBuilder.Text.Search
import SvgBuilder.Text.Split

/-!
# The words of a command line

A word is an operand or an option.  An option is written out, shortened to the beginning of a long
option that no other one begins with, or a hyphen and a letter; a value may stand behind an equals
sign or directly behind the letter; behind a letter that takes no value, other letters may follow.
After two hyphens alone all words are operands.

## Main definitions

* `classifyAll`: the words of a command line as operands and options.
-/

namespace SvgBuilder.Command

open SvgBuilder.Text

/-- The options. -/
inductive Flag where
  | help
  | config
  | strictTransforms
  | noValidate
  | verbose
  deriving DecidableEq, Repr

/-- The names of the options. -/
def flagNames : List (String × Flag) := [
  ("-h", .help), ("--help", .help), ("--config", .config), ("-c", .config),
  ("--strict-transforms", .strictTransforms), ("--no-validate", .noValidate),
  ("--verbose", .verbose), ("-v", .verbose)]

/-- Whether a value follows an option. -/
def Flag.takesValue (flag : Flag) : Bool := flag = .config

/-- How a text is attached to an option. -/
inductive Attached where
  | none
  /-- Behind a long name and an equals sign. -/
  | equals (value : String)
  /-- Behind a letter; there may be an equals sign in between. -/
  | directly (value : String)
  deriving DecidableEq, Repr

/-- What a word is. -/
inductive Word where
  | operand (text : String)
  /-- Two hyphens alone. -/
  | separator
  | option (flag : Flag) (attached : Attached)
  /-- An option that there is not. -/
  | unknown
  deriving DecidableEq, Repr

/-- A word before its first equals sign, and the text behind it. -/
def splitValue (word : String) : String × Option String :=
  match upTo ['='] word.toList with
  | some (name, value) => (String.ofList name, some (String.ofList value))
  | none => (word, none)

/-- Whether a name of an option is a long one. -/
def isLongName (name : String) : Bool := ['-', '-'].isPrefixOf name.toList

/-- What is attached to a name by an equals sign. -/
def attachedValue (name : String) : Option String → Attached
  | none => .none
  | some value => if isLongName name then .equals value else .directly value

/-- The options whose full name begins with a text. -/
def flagsFrom (opening : String) : List Flag :=
  (flagNames.filter fun (full, _) => opening.toList.isPrefixOf full.toList).map (·.2)

/-- The options that a word with a leading hyphen may stand for. -/
def candidates (word : String) : List Word :=
  match word.toList with
  | '-' :: '-' :: _ =>
    let (name, value) := splitValue word
    (flagsFrom name).map fun flag => .option flag (attachedValue name value)
  | '-' :: letter :: rest =>
    let short := (flagNames.lookup (String.ofList ['-', letter])).map fun flag =>
      Word.option flag (.directly (String.ofList rest))
    short.toList ++ (flagsFrom word).map fun flag => .option flag .none
  | _ => []

/-- A decimal digit of any script. -/
def isDigit (c : Char) : Bool := (digitValue? c).isSome

/-- Whether a word looks like a negative number.  It may end with a line feed. -/
def looksNegative (word : String) : Bool :=
  match withoutLineEnd word.toList with
  | '-' :: s =>
    let rest := s.dropWhile isDigit
    match rest with
    | [] => !s.isEmpty
    | '.' :: t => !t.isEmpty && t.all isDigit
    | _ => false
  | _ => false

/-- What a word with a leading hyphen and more is, if it is no full name of an option. -/
def classifyPartial (word : String) : Option Word :=
  match candidates word with
  | [] => some (if looksNegative word || word.toList.contains ' ' then .operand word else .unknown)
  | [found] => some found
  | _ => none

/-- What a word is; nothing if it may be several options. -/
def classify (word : String) : Option Word :=
  if word = "--" then some .separator
  else if word.length ≤ 1 || word.toList.head? ≠ some '-' then some (.operand word)
  else
    match flagNames.lookup word with
    | some flag => some (.option flag .none)
    | none =>
      let (name, value) := splitValue word
      match value, flagNames.lookup name with
      | some value, some flag => some (.option flag (attachedValue name (some value)))
      | _, _ => classifyPartial word

/-- What words are, up to two hyphens and behind them. -/
def classifyAll : List String → Option (List Word)
  | [] => some []
  | word :: words =>
    match classify word with
    | none => none
    | some .separator => some (.separator :: words.map .operand)
    | some found => (classifyAll words).map (found :: ·)

end SvgBuilder.Command
