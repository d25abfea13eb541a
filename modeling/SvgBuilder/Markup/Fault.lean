/-!
# Why a text is no document
-/

namespace SvgBuilder.Markup

/-- What is wrong with a text that is no well-formed document. -/
inductive Fault where
  /-- The bytes are not in the encoding of the document, or it is unknown. -/
  | encoding
  /-- A character that no document may hold. -/
  | character
  /-- The declaration at the beginning. -/
  | declaration
  /-- The document type declaration. -/
  | doctype
  /-- There is no root element, or something else stands outside of it. -/
  | outside
  /-- A tag, a comment, a section or a processing instruction is not written properly. -/
  | markup
  /-- A tag that does not close the element that is open. -/
  | mismatch
  /-- Elements are nested too deeply. -/
  | depth
  /-- A reference that is malformed or that nothing is declared for. -/
  | reference
  /-- An entity that holds itself, or entities that are nested too deeply. -/
  | recursion
  /-- The references stand for too much text. -/
  | expansion
  /-- Two attributes of one name, or two declarations of one prefix. -/
  | duplicate
  /-- Nothing that ends the reading, but errors that have been noted on the way. -/
  | problems
  deriving DecidableEq, Repr

end SvgBuilder.Markup
