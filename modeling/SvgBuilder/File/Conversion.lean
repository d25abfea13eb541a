import SvgBuilder.Comparison.Difference
import SvgBuilder.Component.Assembly
import SvgBuilder.Component.Name
import SvgBuilder.File.Store
import SvgBuilder.Markup.Document
import SvgBuilder.Text.Utf8

/-!
# Conversion of files

A file is converted into a module, which is printed or written into a directory under the name of
the file with another extension.  The conversion takes steps, and any of them can end it: the paths
are checked, the file is read and converted, the module is put out, and the names in it are compared
with those in the file.

All files of a directory can be converted one after another; then a file that cannot be converted
does not keep the others from it.

## Main results

* `convertEntry_failed`: a file that cannot be converted has a result like the others.
-/

namespace SvgBuilder

open SvgBuilder.Markup SvgBuilder.Number SvgBuilder.Text

/-- Why a conversion ends without a result. -/
inductive ConversionFault where
  | inputMissing (path : Path)
  | inputUnreadable (path : Path)
  | outputMissing (path : Path)
  | outputUnwritable (path : Path)
  | inputNoDirectory (path : Path)
  /-- It cannot be told what a path leads to, or what is in a directory. -/
  | refused (path : Path) (fault : PathFault)
  /-- The file cannot be read. -/
  | inputUnread (path : Path) (fault : ReadFault)
  /-- The document is not well formed, and what the parser says about it. -/
  | document (fault : Fault) (words : String)
  /-- A name that no file can have. -/
  | brokenName
  /-- A name or a module that cannot be written. -/
  | unencodable (run : CodeText.LoneRun)
  /-- A size of too many digits. -/
  | longSize
  /-- Something without a name, where names are compared. -/
  | unnamed
  deriving DecidableEq, Repr

/-- Why a conversion ends, in words. -/
def ConversionFault.words : ConversionFault → CodeText
  | .inputMissing path => "SVG file not found: " ++ path.text
  | .inputUnreadable path => "SVG file is not readable: " ++ path.text
  | .outputMissing path => "Output directory does not exist: " ++ path.text
  | .outputUnwritable path => "Output directory is not writable: " ++ path.text
  | .inputNoDirectory path => path.text ++ " is not a directory"
  | .refused path fault => fault.message path
  | .inputUnread path fault => fault.message path
  | .document _ words => words
  | .brokenName => "embedded null byte"
  | .unencodable run => run.message
  | .longSize => unwrittenMessage
  | .unnamed => ""

/-- What stands for the words of a fault that has none.  Only these two can be without words. -/
def ConversionFault.title : ConversionFault → String
  | .unnamed => "StopIteration"
  | _ => "XMLSyntaxError"

/-- What is noted about a fault. -/
def ConversionFault.message (fault : ConversionFault) : CodeText :=
  if fault.words = "" then fault.title else fault.words

/-- The result of a conversion. -/
structure Conversion where
  path : Path
  code : String
  /-- The text of the file. -/
  document : String
  isValid : Bool
  differences : List String
  notes : List Note

/-- What conversions work on: what they can change, which is the store and what is printed, and what
the parser says about a content that is not well formed. -/
structure Effect where
  store : Store
  printed : String
  wording : List UInt8 → String

/-- Nothing has been printed, and the parser finds no words unless they are given. -/
def Effect.start (store : Store) (wording : List UInt8 → String := fun _ => "") : Effect :=
  ⟨store, "", wording⟩

/-- A conversion that ends without a result, and the notes made up to there. -/
structure Failed where
  fault : ConversionFault
  notes : List Note

/-- A conversion under way: what it works on, and the notes made so far. -/
structure Session where
  effect : Effect
  notes : List Note

/-- A step of a conversion.  What is changed before a step that breaks off stays changed. -/
abbrev Converting := ExceptT ConversionFault (StateM Session)

/-! ## Steps -/

namespace Converting

variable {α : Type}

/-- What a step gives from a session, and the session behind it. -/
def outcome (x : Converting α) (s : Session) : Except ConversionFault α × Session := x.run s

/-- Breaks off if there is a fault. -/
def stopAt : Option ConversionFault → Converting Unit
  | some fault => throw fault
  | none => pure ()

/-- Adds the notes of a computation. -/
def keep (x : Noted α) : Converting α := do
  modify fun s => { s with notes := s.notes ++ x.notes }
  pure x.value

/-- Prints a text. -/
def print (text : String) : Converting Unit :=
  modify fun s => { s with effect.printed := s.effect.printed ++ text }

/-- Takes another store. -/
def setStore (store : Store) : Converting Unit :=
  modify fun s => { s with effect.store := store }

end Converting

open Converting

/-- Where the module of a file is written. -/
def outputPath (input output : Path) (extension : CodeText) : Path :=
  output.down (withoutExtension input.name ++ "." ++ extension)

/-- What is wrong with the paths of a conversion. -/
def pathFault? (store : Store) (input : Path) (output : Option Path) : Option ConversionFault :=
  match store.refusal? input with
  | some fault => some (.refused input fault)
  | none =>
    if !store.isFile input then some (.inputMissing input)
    else if !store.isReadable input then some (.inputUnreadable input)
    else
      output.bind fun directory =>
        match store.refusal? directory with
        | some fault => some (.refused directory fault)
        | none =>
          if !store.isDirectory directory then some (.outputMissing directory)
          else if !store.isWritable directory then some (.outputUnwritable directory)
          else none

/-- Reads the content of a file. -/
def readSource (input : Path) : Converting (List UInt8) := do
  match (← get).effect.store.read input with
  | .ok content => pure content
  | .error fault => throw (.inputUnread input fault)

/-- Reads a document. -/
def parseSource (content : List UInt8) : Converting Element := do
  match readDocument content with
  | .ok root => pure root
  | .error fault => throw (.document fault ((← get).effect.wording content))

/-- What is there before a module is put out: the content of the file, its module, and what cannot
be written of that. -/
structure Prepared where
  content : List UInt8
  code : String
  lone : Option CodeText.LoneRun

/-- The module of a file. -/
def sourceModule (settings : Settings) (fileName : CodeText) (root : Element) : Noted String :=
  assemble settings (moduleName fileName).shown fileName.shown root

/-- The first code points of the module of a file that cannot be written: those of the header, or else
those of the name of the object.  Behind that name stands the name of the file, which holds it but for
its first letter; all other texts are of characters. -/
def loneIn (settings : Settings) (fileName : CodeText) (root : Element) : Option CodeText.LoneRun :=
  (headerText settings).loneRun?.or ((moduleName fileName).loneRun?.map fun run =>
    { run with place := (moduleStart settings root).codes.length + run.place })

/-- All that comes before the module is put out. -/
def prepare (settings : Settings) (input : Path) (output : Option Path) : Converting Prepared := do
  stopAt (pathFault? (← get).effect.store input output)
  keep (Noted.note .info ("Converting file: " ++ input.text))
  let content ← readSource input
  let root ← parseSource content
  let code ← keep (sourceModule settings input.name root)
  stopAt (if (writtenInteger? settings.defaultSize).isNone then some .longSize else none)
  pure ⟨content, code, loneIn settings input.name root⟩

/-- What is noted when a module is written. -/
def writtenInfo (path : Path) : CodeText := "Output written to: " ++ path.text

/-- What the error about a module that cannot be written begins with. -/
def unwrittenOpening : String := "Failed to write "

/-- What is noted when a module cannot be written. -/
def unwrittenError (path : Path) (words : String) : CodeText :=
  unwrittenOpening ++ path.text ++ ": " ++ words

/-- Why a file cannot have the name at the end of a path. -/
def nameFault? (path : Path) : Option ConversionFault :=
  match path.text.loneRunInName? with
  | some run => some (.unencodable run)
  | none => if path.isBroken then some .brokenName else none

/-- Writes a module into an open file, which is empty before anything of the module is written. -/
def fillFile (path : Path) (l : Location) (prepared : Prepared) : Converting Unit := do
  setStore ((← get).effect.store.put l [])
  stopAt (prepared.lone.map .unencodable)
  let (store, fault) := (← get).effect.store.fill l (Utf8.encode prepared.code.toList)
  setStore store
  match fault with
  | none => keep (Noted.note .info (writtenInfo path))
  | some fault => keep (Noted.note .error (unwrittenError path fault.words))

/-- Puts out a module: into a file, or else by printing it.  A file that cannot be written does not
end the conversion. -/
def deliver (target : Option Path) (prepared : Prepared) : Converting Unit := do
  match target with
  | none =>
    stopAt (prepared.lone.map .unencodable)
    print prepared.code
  | some path =>
    stopAt (nameFault? path)
    match (← get).effect.store.opened path with
    | .ok l => fillFile path l prepared
    | .error fault => keep (Noted.note .error (unwrittenError path (fault.message path)))

/-- What the module of a document misses of it, if that is asked for. -/
def compareNames (settings : Settings) (document code : String) : Converting (List String) := do
  if settings.validate then
    match Comparison.differences? document code with
    | some differences => keep ⟨differences, differences.map fun (text : String) => ⟨.warning, text⟩⟩
    | none => throw .unnamed
  else pure []

/-! ## One file -/

/-- Converts a file step by step. -/
def converting (settings : Settings) (input : Path) (output : Option Path) :
    Converting Conversion := do
  let prepared ← prepare settings input output
  deliver (output.map (outputPath input · settings.extension)) prepared
  let document := String.ofList (Utf8.decodeLossy prepared.content)
  let differences ← compareNames settings document prepared.code
  let notes := (← get).notes
  pure ⟨input, prepared.code, document, differences.isEmpty, differences, notes⟩

/-- Converts a file: the result or why there is none, and what there is afterwards. -/
def convertFile (settings : Settings) (before : Effect) (input : Path) (output : Option Path) :
    Except Failed Conversion × Effect :=
  match (converting settings input output).outcome ⟨before, []⟩ with
  | (.ok conversion, after) => (.ok conversion, after.effect)
  | (.error fault, after) => (.error ⟨fault, after.notes⟩, after.effect)

/-! ## The files of a directory -/

/-- The result that stands for a conversion that ends without one. -/
def Failed.conversion (failed : Failed) (input : Path) : Conversion :=
  let trace : Note := ⟨.trace, "Conversion of " ++ input.text ++ " failed"⟩
  ⟨input, "", "", false, [], failed.notes ++ [trace, ⟨.error, failed.fault.message⟩]⟩

/-- Converts a file as one of several. -/
def convertEntry (settings : Settings) (output : Option Path) (before : Effect) (input : Path) :
    Conversion × Effect :=
  match convertFile settings before input output with
  | (.ok conversion, after) => (conversion, after)
  | (.error failed, after) => (failed.conversion input, after)

/-- Converts files one after another. -/
def convertEntries (settings : Settings) (output : Option Path) :
    Effect → List Path → List Conversion × Effect
  | effect, [] => ([], effect)
  | effect, input :: inputs =>
    let (conversion, next) := convertEntry settings output effect input
    let (conversions, last) := convertEntries settings output next inputs
    (conversion :: conversions, last)

/-- The documents in a directory, in order. -/
def documentEntries (store : Store) (directory : Path) : Except PathFault (List Path) :=
  (store.list directory).map fun entries => entries.filter fun entry => isDocumentName entry.name

/-- Converts the documents in a directory.  They are listed before the first one is converted. -/
def convertDirectory (settings : Settings) (before : Effect) (input : Path)
    (output : Option Path) : Except ConversionFault (List Conversion) × Effect :=
  match before.store.refusal? input with
  | some fault => (.error (.refused input fault), before)
  | none =>
    if before.store.isDirectory input then
      match documentEntries before.store input with
      | .ok inputs =>
        let (conversions, after) := convertEntries settings output before inputs
        (.ok conversions, after)
      | .error fault => (.error (.refused input fault), before)
    else (.error (.inputNoDirectory input), before)

theorem convertEntry_failed {settings : Settings} {output : Option Path} {before after : Effect}
    {input : Path} {failed : Failed}
    (h : convertFile settings before input output = (.error failed, after)) :
    convertEntry settings output before input = (failed.conversion input, after) := by
  simp [convertEntry, h]

end SvgBuilder
