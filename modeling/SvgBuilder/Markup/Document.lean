import SvgBuilder.Markup.Encoding
import SvgBuilder.Markup.Resolution
import SvgBuilder.Text.LineEnd

/-!
# Documents

A document is an optional declaration, an optional document type declaration and a root element,
with blanks, comments and processing instructions between them and behind them.  It is read from
bytes: a byte order mark shows the encoding, and without one the declaration names it.

## Main results

* `isChar_of_readCharacters`: a document holds no character that is not allowed.
* `isAccepted_of_accept`: the problems of a document are such that it is accepted.
-/

namespace SvgBuilder.Markup

open SvgBuilder.Text

/-! ## The declaration -/

/-- What the declaration at the beginning says. -/
structure Heading where
  version : String
  encoding : Option String
  standalone : Bool
  deriving DecidableEq, Repr

/-- The version of documents without a declaration, and the one that is known. -/
def knownVersion : String := "1.0"

/-- Reads one item of the declaration, an equals sign and a quoted text behind a keyword. -/
def readItem (s : List Char) : Except Fault (List Char × List Char) := do
  let s ← requireChar .declaration '=' (skipSpace s)
  readQuoted .declaration (skipSpace s)

/-- Whether a version is one of those that begin with one and a point. -/
def isVersion : List Char → Bool
  | '1' :: '.' :: s => s.all (·.isDigit)
  | _ => false

/-- Whether a text may be the name of an encoding. -/
def isEncodingName : List Char → Bool
  | [] => false
  | c :: s => c.isAlpha && s.all fun d => d.isAlphanum || d = '.' || d = '_' || d = '-'

/-- The text behind a keyword that stands behind blanks. -/
def behindKeyword? (keyword : String) (s : List Char) : Option (List Char) :=
  match s with
  | c :: _ => if isSpace c then behind? keyword (skipSpace s) else none
  | [] => none

/-- Reads an optional item of the declaration. -/
def readOptional (keyword : String) (s : List Char) :
    Except Fault (Option (List Char) × List Char) :=
  match behindKeyword? keyword s with
  | none => .ok (none, s)
  | some t => do
    let (value, rest) ← readItem t
    pure (some value, rest)

/-- Whether a statement about other declarations says that there are none. -/
def standaloneOf : Option (List Char) → Except Fault Bool
  | none => .ok false
  | some value =>
    if value = "yes".toList then .ok true
    else if value = "no".toList then .ok false
    else .error .declaration

/-- Reads the declaration behind its opening. -/
def readHeading (s : List Char) : Except Fault (Heading × List Char) := do
  let (version, s) ← readOptional "version" s
  if !(version.map isVersion).getD false then throw .declaration
  let (encoding, s) ← readOptional "encoding" s
  if !(encoding.map isEncodingName).getD true then throw .declaration
  let (standalone, s) ← readOptional "standalone" s
  let standalone ← standaloneOf standalone
  match behind? "?>" (skipSpace s) with
  | some rest =>
    let version := String.ofList (version.getD [])
    pure (⟨version, encoding.map String.ofList, standalone⟩, rest)
  | none => throw .declaration

/-- The text behind the opening of a declaration, up to the blank that has to follow it. -/
def behindHeadingOpening? (s : List Char) : Option (List Char) :=
  (behind? "<?xml" s).filter fun t => (t.head?.map isSpace).getD false

/-- Reads the declaration, if there is one. -/
def readHeading? (s : List Char) : Except Fault (Heading × List Char) :=
  match behindHeadingOpening? s with
  | none => .ok (⟨knownVersion, none, false⟩, s)
  | some t => readHeading t

/-! ## The text -/

/-- Reads the optional document type declaration and what stands before and behind it. -/
def readProlog (standalone : Bool) (s : List Char) : Reading (Declarations × List Char) := do
  let s ← skipMisc (s.length + 1) s
  match behind? "<!DOCTYPE" s with
  | none => pure (Declarations.empty standalone, s)
  | some t =>
    let (declarations, rest) ← readDoctype (Declarations.empty standalone) t
    let rest ← skipMisc (rest.length + 1) rest
    pure (declarations, rest)

/-- Reads all of a text.  From the root element on every line end counts as a line feed. -/
def readAll (s : List Char) : Reading Element := do
  let (heading, s) ← readHeading? s
  if heading.version ≠ knownVersion then note .version
  let (declarations, s) ← readProlog heading.standalone s
  let (draft, rest) ← readRoot (normalized s)
  let root ← draft.resolve (Surroundings.ofDocument declarations) [] 0
  let rest ← skipMisc (rest.length + 1) rest
  if !rest.isEmpty then throw .outside
  match root.element? with
  | some root => pure root
  | none => throw .outside

/-- The outcome of a reading: what has been read, if the problems are such that it is accepted. -/
def accept {α : Type} (outcome : Except Fault (α × Progress)) : Except Fault α := do
  let (a, progress) ← outcome
  if progress.log.isAccepted then pure a else throw .problems

/-- Reads the text of a document. -/
def readCharacters (s : List Char) : Except Fault Element :=
  if s.all isChar then accept ((readAll s).run (Progress.start (textSize s)))
  else .error .character

/-! ## The bytes -/

/-- The encoding that a document without a mark declares.  The declaration is ASCII, so that it
can be read before the encoding is known. -/
def declaredEncoding (bytes : List UInt8) : Except Fault Encoding := do
  let (heading, _) ← readHeading? (bytes.map fun b => Char.ofNat b.toNat)
  match heading.encoding with
  | none => pure .utf8
  | some name =>
    match Encoding.ofName? name with
    | some encoding => pure encoding
    | none => throw .encoding

/-- Reads a document. -/
def readDocument (bytes : List UInt8) : Except Fault Element := do
  let (encoding, bytes) ← match Encoding.ofMark? bytes with
    | some marked => pure marked
    | none => do
      let encoding ← declaredEncoding bytes
      pure (encoding, bytes)
  match encoding.decode? bytes with
  | some s => readCharacters s
  | none => throw .encoding

/-- Reads a document that is a text. -/
def readString (s : String) : Except Fault Element := readDocument (Utf8.encode s.toList)

theorem isAccepted_of_accept {α : Type} {outcome : Except Fault (α × Progress)} {a : α}
    (h : accept outcome = .ok a) : ∃ p, outcome = .ok (a, p) ∧ p.log.isAccepted = true := by
  match outcome with
  | .error f => exact nomatch h
  | .ok (b, p) =>
    cases hp : p.log.isAccepted with
    | false => simp [accept, bind, Except.bind, hp, throw, throwThe, MonadExceptOf.throw] at h
    | true =>
      refine ⟨p, ?_, hp⟩
      simp only [accept, bind, Except.bind, hp, if_true, pure, Except.pure, Except.ok.injEq] at h
      rw [h]

theorem isChar_of_readCharacters {s : List Char} {root : Element}
    (h : readCharacters s = .ok root) : ∀ c ∈ s, isChar c = true := by
  unfold readCharacters at h
  split at h
  · next hs => exact List.all_eq_true.1 hs
  · exact nomatch h

end SvgBuilder.Markup
