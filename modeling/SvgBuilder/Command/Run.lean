import SvgBuilder.Command.Arguments
import SvgBuilder.Component.Configuration
import SvgBuilder.File.Report

/-!
# Running a command

A command converts a file or the files of a directory.  It ends with 0 if all went well, with 1 if
a file or a directory cannot be used or a report cannot be printed, with 2 if its words or its
settings are wrong, and with 3 if errors were noted.

## Main definitions

* `Arguments.run`: what a command leaves behind, or why it breaks off.
-/

namespace SvgBuilder.Command

open SvgBuilder.Text

/-- What a command leaves behind. -/
structure Ended where
  exitCode : Nat
  output : String
  errors : String
  store : Store

/-- The word for a kind of notes; nothing if it is not shown. -/
def levelWord (verbose : Bool) : Level → Option String
  | .trace => if verbose then some "DEBUG" else none
  | .info => if verbose then some "DEBUG" else none
  | .warning => some "WARNING"
  | .error => some "ERROR"

/-- A note as it is shown. -/
def noteLine (verbose : Bool) (note : Note) : String :=
  match levelWord verbose note.level with
  | some word => word ++ ": " ++ note.spelling.escaped ++ "\n"
  | none => ""

/-- Notes as they are shown. -/
def noteLines (verbose : Bool) (notes : List Note) : String :=
  String.join (notes.map (noteLine verbose))

/-- A message about the end of a command. -/
def errorLine (message : CodeText) : String := "Error: " ++ message.escaped ++ "\n"

/-- The settings of a file. -/
def readSettings (store : Store) (path : Path) : Except CodeText Settings :=
  match store.read path with
  | .error fault => .error (fault.message path)
  | .ok bytes => (Settings.readBytes bytes).mapError SettingsFault.message

/-- The settings with what the command asks for. -/
def Arguments.adjust (a : Arguments) (settings : Settings) : Settings :=
  { settings with
    strictTransforms := settings.strictTransforms || a.strictTransforms
    validate := settings.validate && !a.noValidate }

/-- Converts what the command names: the results or a fault, with all notes. -/
def Arguments.convert (a : Arguments) (settings : Settings) (before : Effect) :
    Except Failed (List Conversion) × Effect :=
  if before.store.isDirectory a.input then
    let (outcome, after) := convertDirectory settings before a.input a.output
    (outcome.mapError fun fault => ⟨fault, []⟩, after)
  else
    let (outcome, after) := convertFile settings before a.input a.output
    (outcome.map fun conversion => [conversion], after)

/-- Whether the command reports what it has done. -/
def Arguments.reports (a : Arguments) (store : Store) : Bool :=
  a.output.isSome || store.isDirectory a.input

/-- The report about conversions, if there is one. -/
def Arguments.report? (a : Arguments) (conversions : List Conversion) (store : Store) :
    Option CodeText :=
  if a.reports store then some (report (conversions.map Conversion.entry)) else none

/-- The end of a command whose files are converted.  A report that cannot be printed is the end. -/
def Arguments.ended (a : Arguments) (conversions : List Conversion) (effect : Effect) : Ended :=
  let report := a.report? conversions effect.store
  let errors := String.join (conversions.map fun c => noteLines a.verbose c.notes)
  match report.bind CodeText.loneRun? with
  | some run => ⟨1, effect.printed, errors ++ run.message ++ "\n", effect.store⟩
  | none =>
    { exitCode := if conversions.any fun c => Note.anyError c.notes then 3 else 0
      output := effect.printed ++ ((report.map fun text => text.shown ++ "\n").getD "")
      errors := errors
      store := effect.store }

/-- The end of a command that cannot go on. -/
def stopped (effect : Effect) (exitCode : Nat) (errors : String) (message : CodeText) : Ended :=
  ⟨exitCode, effect.printed, errors ++ errorLine message, effect.store⟩

/-- Converts the files of a command by its settings. -/
def Arguments.runWith (a : Arguments) (settings : Settings) (before : Effect) : Ended :=
  match a.convert (a.adjust settings) before with
  | (.error failed, after) =>
    stopped after 1 (noteLines a.verbose failed.notes)
      ("Failed to convert: " ++ failed.fault.words)
  | (.ok conversions, after) => a.ended conversions after

/-- Converts the files of a command by the settings of a file. -/
def Arguments.runFrom (a : Arguments) (path : Path) (before : Effect) : Ended :=
  if !before.store.isThere path then
    stopped before 1 "" ("Config file not found: " ++ path.text)
  else
    match readSettings before.store path with
    | .error message => stopped before 2 "" ("Failed to parse config file: " ++ message)
    | .ok settings => a.runWith settings before

/-- Why a command breaks off without an exit code. -/
inductive Breakdown where
  /-- It cannot be told what a path leads to. -/
  | refused (path : Path) (fault : PathFault)
  /-- Settings are asked for, but no path of them is left. -/
  | noSettings
  deriving DecidableEq, Repr

/-- Why a command breaks off, in words. -/
def Breakdown.message : Breakdown → String
  | .refused path fault => fault.message path
  | .noSettings => "No config file is left to read"

/-- Runs a command. -/
def Arguments.run (a : Arguments) (before : Effect) : Except Breakdown Ended :=
  match before.store.refusal? a.input with
  | some fault => .error (.refused a.input fault)
  | none =>
    if !before.store.isThere a.input then
      .ok (stopped before 1 "" ("Input not found: " ++ a.input.text))
    else
      match a.config with
      | none => .ok (a.runWith .default before)
      | some .nothing => .error .noSettings
      | some (.file path) =>
        match before.store.refusal? path with
        | some fault => .error (.refused path fault)
        | none => .ok (a.runFrom path before)

end SvgBuilder.Command
