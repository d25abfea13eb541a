import SvgBuilder.File.Conversion

/-!
# Reports

A report names every file that was converted, with the issues and errors that were noted, and
counts them.

## Main definitions

* `report`: the text of a report.
-/

namespace SvgBuilder

open SvgBuilder.Number SvgBuilder.Text

/-- What a report says about a file. -/
structure ReportEntry where
  fileName : CodeText
  warnings : List CodeText
  errors : List CodeText
  isValid : Bool

/-- What a report says about a conversion. -/
def Conversion.entry (c : Conversion) : ReportEntry :=
  ⟨c.path.name, Note.spellings .warning c.notes, Note.spellings .error c.notes, c.isValid⟩

namespace ReportEntry

/-- Whether there are errors. -/
def hasErrors (e : ReportEntry) : Bool := !e.errors.isEmpty

/-- The lines about messages of a kind. -/
def messageLines (title : String) (messages : List CodeText) : List CodeText :=
  if messages.isEmpty then []
  else title :: messages.map fun (message : CodeText) => "  - " ++ message

/-- The lines about a file. -/
def lines (e : ReportEntry) : List CodeText :=
  ("Processed: " ++ e.fileName) :: messageLines "Warnings:" e.warnings ++
    messageLines "Errors:" e.errors ++ ([""] : List CodeText)

end ReportEntry

/-- The line above and below the title of the summary. -/
def rule : String := String.ofList (List.replicate 60 '=')

/-- A line of the summary. -/
def countLine (label : String) (count : Nat) : String := label ++ ": " ++ integerText count

/-- The lines of the summary. -/
def summaryLines (entries : List ReportEntry) : List CodeText :=
  let failed := entries.countP ReportEntry.hasErrors
  let invalid := entries.countP fun e => !e.hasErrors && !e.isValid
  [rule, "SUMMARY", rule,
    countLine "Files processed" entries.length,
    countLine "Converted" (entries.length - failed),
    countLine "Failed" failed,
    countLine "Validation mismatches" invalid]

/-- The text of a report. -/
def report (entries : List ReportEntry) : CodeText :=
  CodeText.joined "\n" (entries.flatMap ReportEntry.lines ++ summaryLines entries)

end SvgBuilder
