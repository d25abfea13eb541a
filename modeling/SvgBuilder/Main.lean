import SvgBuilder.Command.Run

/-!
# The program

The program runs a command on the files of the system.  Of these it takes into a store what the
arguments name; what the command has written there is written back.
-/

namespace SvgBuilder.Command

/-- How the program is called. -/
def usage : String :=
  "usage: svgbuilder [-h] [-c FILE] [--strict-transforms] [--no-validate] [-v] input [output]\n"

/-- The directory where relative paths begin. -/
def currentLocation : IO Location := do
  let path ← IO.FS.realPath "."
  pure (Path.namesOf path.toString)

/-- Takes a file into a store.  A file whose content cannot be had must not be read. -/
def takeFile (store : Store) (path : Path) : IO Store := do
  match ← (IO.FS.readBinFile path.text.shown).toBaseIO with
  | .ok content => pure (store.addFile path content.toList)
  | .error _ =>
    let store := store.addFile path []
    pure { store with unreadable := store.location path :: store.unreadable }

/-- Takes what a path leads to into a store; of a directory, what is directly inside. -/
def takePath (store : Store) (path : Path) : IO Store := do
  match ← (IO.FS.realPath path.text.shown).toBaseIO with
  | .error _ => pure store
  | .ok real =>
    if ← real.isDir then
      let mut filled := store.addDirectory path
      for entry in ← real.readDir do
        let inner := path.down entry.fileName
        if ← entry.path.isDir then
          filled := filled.addDirectory inner
        else
          filled ← takeFile filled inner
      pure filled
    else takeFile store path

/-- The paths that the arguments name. -/
def Arguments.paths (a : Arguments) : List Path := 
  a.input :: a.output.toList ++ (a.config.bind SettingsSource.path?).toList

/-- Writes back the files that are new or have another content. -/
def writeBack (before after : Store) : IO Unit := do
  for (location, content) in after.files do
    if before.file? location != some content then
      IO.FS.writeBinFile (Path.text ⟨"/", location⟩).shown ⟨content.toArray⟩

end SvgBuilder.Command

open SvgBuilder SvgBuilder.Command

/-- Runs the program with the words of a command line. -/
def main (words : List String) : IO UInt32 := do
  match Arguments.read words with
  | .error .help =>
    IO.print usage
    pure 0
  | .error .usage =>
    IO.eprint usage
    pure 2
  | .ok arguments =>
    let store ← arguments.paths.foldlM takePath (Store.empty (← currentLocation))
    match arguments.run (Effect.start store) with
    | .error breakdown =>
      IO.eprintln breakdown.message
      pure 1
    | .ok ended =>
      writeBack store ended.store
      IO.print ended.output
      IO.eprint ended.errors
      pure (UInt32.ofNat ended.exitCode)
