import SvgBuilder.Text.Case
import SvgBuilder.Text.CodeText

/-!
# Names of modules

A module is named after the file of its document: the extension is dropped and the first letter
is put into upper case.

## Main definitions

* `isDocumentName`, `withoutExtension`: names with the extension of documents.
* `moduleName`: the name of the module of a file.
-/

namespace SvgBuilder

open SvgBuilder.Text

/-- The extension of documents in reverse. -/
def reversedExtension : List Char := ['g', 'v', 's', '.']

/-- Whether a name in reverse begins with the extension of documents in any letter case. -/
def hasReversedExtension (codes : List Nat) : Bool :=
  (codes.take 4).map (fun code => (CodeText.codeChar code).toLower) = reversedExtension

/-- Whether a file name has the extension of documents, in any letter case. -/
def isDocumentName (name : CodeText) : Bool := hasReversedExtension name.codes.reverse

/-- A file name without the extension of documents. -/
def withoutExtension (name : CodeText) : CodeText :=
  if isDocumentName name then ⟨name.codes.take (name.codes.length - 4)⟩ else name

/-- The upper case of a code point. -/
def upperCode (code : Nat) : List Nat :=
  if code.isValidChar then (upperChar (Char.ofNat code)).map Char.toNat else [code]

/-- The text with its first letter in upper case. -/
def capitalized (t : CodeText) : CodeText :=
  match t.codes with
  | [] => t
  | code :: codes => ⟨upperCode code ++ codes⟩

/-- The name of the module of a file. -/
def moduleName (fileName : CodeText) : CodeText := capitalized (withoutExtension fileName)

end SvgBuilder
