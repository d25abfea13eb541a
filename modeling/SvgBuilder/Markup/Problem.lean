/-!
# Problems that are only noted

Most of what can be wrong with a document ends its reading at once.  The problems here do not:
they are noted in the order in which they are met, and reading goes on.  Some are warnings and the
others are errors.  A document is accepted if no error has been noted, and also if a warning is
the last problem: then the errors before it are forgiven.  Of each kind only so many are noted.

## Main definitions

* `Log.note`: notes a problem.
* `Log.isAccepted`: whether a document with these problems is accepted.
-/

namespace SvgBuilder.Markup

/-- What may be wrong with a document that is readable nevertheless. -/
inductive Problem where
  /-- A version other than the one that is known. -/
  | version
  /-- An instruction whose target begins like the name of the markup language. -/
  | reservedTarget
  /-- A default namespace that has no scheme. -/
  | relativeSpace
  /-- A statement on white space that is none of those there are. -/
  | spaceHandling
  /-- A reference to an entity that may be declared elsewhere. -/
  | undeclaredEntity
  /-- A declaration that gives a predefined entity another meaning. -/
  | predefinedEntity
  /-- A name that is no name with an optional prefix. -/
  | qualifiedName
  /-- A prefix that is not declared. -/
  | undeclaredLabel
  /-- A declaration of a namespace that must not be made. -/
  | declaration
  /-- A namespace that is no reference to a resource. -/
  | invalidSpace
  /-- An attribute whose expanded name stands there already with another prefix. -/
  | repeatedAttribute
  /-- A colon in a name that must not have one. -/
  | colon
  /-- Something that is declared twice. -/
  | redeclared
  /-- An identifier that is no name or not unique. -/
  | identifier
  deriving DecidableEq, Repr

namespace Problem

/-- Whether a problem is an error and not a warning. -/
def isError : Problem → Bool
  | version | reservedTarget | relativeSpace | spaceHandling | undeclaredEntity
  | predefinedEntity => false
  | _ => true

end Problem

/-- The problems that have been noted, the last one first. -/
abbrev Log := List Problem

namespace Log

/-- How many warnings and how many errors are noted. -/
def maxNoted : Nat := 100

/-- Notes a problem, unless there are too many of its kind. -/
def note (log : Log) (problem : Problem) : Log :=
  if maxNoted ≤ log.countP (·.isError = problem.isError) then log else problem :: log

/-- Whether a document with these problems is accepted. -/
def isAccepted (log : Log) : Bool := !log.any Problem.isError || log.head?.any (!·.isError)

end Log

end SvgBuilder.Markup
