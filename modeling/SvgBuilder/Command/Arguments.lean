import SvgBuilder.Command.Word
import SvgBuilder.File.Path

/-!
# The arguments of a command

The first operands that stand together are the input and the output; the output may be missing.
Other operands are refused, and so are options that there are not and options without their
value.  Asking for help ends everything as soon as it is met.

## Main definitions

* `Arguments.read`: what the words of a command ask for.
-/

namespace SvgBuilder.Command

/-- Where a command is told to find settings. -/
inductive SettingsSource where
  | file (path : Path)
  /-- Two hyphens alone, which leave no path. -/
  | nothing
  deriving DecidableEq, Repr

/-- The source that a value names. -/
def SettingsSource.read (value : String) : SettingsSource :=
  if value = "--" then .nothing else .file (Path.read value)

/-- The path of a source, if there is one. -/
def SettingsSource.path? : SettingsSource → Option Path
  | .file path => some path
  | .nothing => none

/-- What a command is asked to do. -/
structure Arguments where
  input : Path
  output : Option Path
  config : Option SettingsSource
  strictTransforms : Bool
  noValidate : Bool
  verbose : Bool
  deriving DecidableEq, Repr

/-- Why there are no arguments. -/
inductive Ending where
  /-- The words are wrong. -/
  | usage
  /-- Help is asked for. -/
  | help
  deriving DecidableEq, Repr

/-- What is known between two words. -/
structure Progress where
  /-- The input and the output, once there are operands. -/
  operands : Option (String × Option String)
  config : Option String
  strictTransforms : Bool
  noValidate : Bool
  verbose : Bool
  /-- Whether there is a word that means nothing. -/
  superfluous : Bool

/-- Nothing known. -/
def Progress.start : Progress := ⟨none, none, false, false, false, false⟩

/-- Sets an option. -/
def Progress.set (p : Progress) (flag : Flag) (value : String) : Except Ending Progress :=
  match flag with
  | .help => .error .help
  | .config => .ok { p with config := some value }
  | .strictTransforms => .ok { p with strictTransforms := true }
  | .noValidate => .ok { p with noValidate := true }
  | .verbose => .ok { p with verbose := true }

/-! ## Options -/

/-- An option with its value, both as they are set. -/
abbrev Setting := Flag × String

/-- The short option of a letter. -/
def shortFlag? (letter : Char) : Option Flag := flagNames.lookup (String.ofList ['-', letter])

/-- What an option sets to which nothing is attached: the settings, and the option if its value is
to follow. -/
def bareSettings (flag : Flag) : List Setting × Option Flag :=
  if flag.takesValue then ([], some flag) else ([(flag, "")], none)

/-- What short options in one word set.  The letters stand directly behind an option. -/
def shortSettings (flag : Flag) : List Char → Except Ending (List Setting × Option Flag)
  | [] => .ok (bareSettings flag)
  | c :: s =>
    if flag.takesValue then .ok ([(flag, String.ofList (c :: s))], none)
    else
      match shortFlag? c with
      | none => .error .usage
      | some next => do
        let (settings, awaiting) ← shortSettings next s
        pure ((flag, "") :: settings, awaiting)

/-- What an option sets. -/
def optionSettings (flag : Flag) : Attached → Except Ending (List Setting × Option Flag)
  | .none => .ok (bareSettings flag)
  | .equals value => if flag.takesValue then .ok ([(flag, value)], none) else .error .usage
  | .directly value =>
    if value = "" ∧ flag.takesValue then .ok ([(flag, value)], none)
    else if value = "" then .error .usage
    else shortSettings flag value.toList

/-- Sets options. -/
def Progress.setAll (p : Progress) : List Setting → Except Ending Progress
  | [] => .ok p
  | (flag, value) :: settings => do
    let p ← p.set flag value
    p.setAll settings

/-! ## Operands -/

/-- Whether a word is no option. -/
def isOperand : Word → Bool
  | .operand _ => true
  | .separator => true
  | _ => false

/-- The text of a word that is no option. -/
def operandText : Word → String
  | .operand text => text
  | _ => "--"

/-- Texts without the first two hyphens alone. -/
def withoutSeparator (texts : List String) : List String := texts.erase "--"

/-- The first operand of a group with the separators around it, and the words behind them. -/
def takeOperand (words : List Word) : Option (List String × List Word) :=
  let before := words.takeWhile (· = .separator)
  match words.dropWhile (· = .separator) with
  | .operand text :: rest =>
    let behind := rest.takeWhile (· = .separator)
    some ((before ++ [Word.operand text] ++ behind).map operandText,
      rest.dropWhile (· = .separator))
  | _ => none

/-- Takes the input and the output from the words of a group, and returns those that are left. -/
def takeOperands (words : List Word) : Option ((String × Option String) × List Word) :=
  match takeOperand words with
  | none => none
  | some (first, rest) =>
    match withoutSeparator first with
    | [] => none
    | input :: _ =>
      match takeOperand rest with
      | none => some ((input, none), rest)
      | some (second, rest) => some ((input, (withoutSeparator second).head?), rest)

/-- Takes a group of operands into account. -/
def Progress.addGroup (p : Progress) (group : List Word) : Progress :=
  match p.operands with
  | some _ => { p with superfluous := true }
  | none =>
    match takeOperands group with
    | none => { p with superfluous := true }
    | some (operands, rest) =>
      { p with operands := some operands, superfluous := p.superfluous || !rest.isEmpty }

/-! ## All words -/

/-- Takes words into account.  `steps` bounds their number. -/
def Progress.addAll : Nat → Progress → List Word → Except Ending Progress
  | 0, p, _ => .ok p
  | steps + 1, p, words =>
    match words with
    | [] => .ok p
    | .unknown :: rest => Progress.addAll steps { p with superfluous := true } rest
    | .option flag attached :: rest => do
      let (settings, awaiting) ← optionSettings flag attached
      let (settings, rest) ← match awaiting, rest with
        | none, rest => pure (settings, rest)
        | some flag, .operand value :: rest => pure (settings ++ [(flag, value)], rest)
        | some _, _ => throw .usage
      let p ← p.setAll settings
      Progress.addAll steps p rest
    | _ =>
      Progress.addAll steps (p.addGroup (words.takeWhile isOperand)) (words.dropWhile isOperand)

/-- The arguments that are known in the end. -/
def Progress.arguments (p : Progress) : Except Ending Arguments :=
  match p.operands with
  | none => .error .usage
  | some (input, output) =>
    if p.superfluous then .error .usage
    else
      .ok {
        input := Path.read input
        output := output.map Path.read
        config := p.config.map SettingsSource.read
        strictTransforms := p.strictTransforms
        noValidate := p.noValidate
        verbose := p.verbose }

/-- Reads the arguments of a command. -/
def Arguments.read (words : List String) : Except Ending Arguments :=
  match classifyAll words with
  | none => .error .usage
  | some words => do
    let p ← Progress.start.addAll (words.length + 1) words
    p.arguments

end SvgBuilder.Command
