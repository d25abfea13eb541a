import SvgBuilder.Markup.Reference
import SvgBuilder.Markup.Token

/-!
# Elements as they are written

A draft is a tree whose names are as they are written and whose attribute values still refer to
entities.  This file reads drafts; what the names and the entities stand for is settled
afterwards.

## Main definitions

* `Draft`: a node as it is written.
* `readRoot`: the draft of the element that a text begins with.
-/

namespace SvgBuilder.Markup

open SvgBuilder.Text

/-- An attribute or a namespace declaration as it is written. -/
structure DraftAttribute where
  name : List Char
  value : List Piece
  deriving DecidableEq, Repr

/-- A node as it is written. -/
inductive Draft where
  | element (name : List Char) (attributes : List DraftAttribute) (children : List Draft)
  | text (content : List Char)
  | comment (content : List Char)
  | instruction (target data : List Char)
  | reference (name : String)

/-- How deeply elements may be nested. -/
def maxElementDepth : Nat := 256

/-! ## Text -/

/-- Puts a character before drafts, into the text that they begin with if there is one. -/
def Draft.prependChar (c : Char) : List Draft → List Draft
  | .text s :: drafts => .text (c :: s) :: drafts
  | drafts => .text [c] :: drafts

/-- The drafts of the pieces of a text: texts with references between them. -/
def Draft.ofPieces : List Piece → List Draft
  | [] => []
  | .char c :: pieces => Draft.prependChar c (ofPieces pieces)
  | .entity name :: pieces => .reference name :: ofPieces pieces

/-- Puts drafts one behind the other; two texts that meet become one. -/
def Draft.join : List Draft → List Draft → List Draft
  | [], more => more
  | [.text s], .text t :: more => .text (s ++ t) :: more
  | d :: ds, more => d :: join ds more

/-- The drafts of text between tags, where the end of a section must not stand. -/
def readText (s : List Char) : Except Fault (List Draft) := do
  if (upTo [']', ']', '>'] s).isSome then throw .markup
  let pieces ← textPieces s
  pure (Draft.ofPieces pieces)

/-! ## Tags -/

/-- A blank as it counts in an attribute value. -/
def valueChar (c : Char) : Char := if c = '\t' ∨ c = '\n' ∨ c = '\r' then ' ' else c

/-- The pieces of an attribute value. -/
def readValue (s : List Char) : Except Fault (List Piece) :=
  if '<' ∈ s then .error .markup else textPieces (s.map valueChar)

/-- Reads attributes up to the end of the tag, and whether the element ends there too.  `steps`
bounds their number. -/
def readAttributes : Nat → List Char → Except Fault ((List DraftAttribute × Bool) × List Char)
  | 0, _ => .error .markup
  | steps + 1, s =>
    match skipSpace s with
    | '>' :: rest => .ok (([], false), rest)
    | '/' :: '>' :: rest => .ok (([], true), rest)
    | afterSpace => do
      if !beginsWithSpace s then throw .markup
      let (name, s) ← readName .markup afterSpace
      let s ← requireChar .markup '=' (skipSpace s)
      let (value, s) ← readQuoted .markup (skipSpace s)
      let value ← readValue value
      let ((attributes, closed), rest) ← readAttributes steps s
      pure ((⟨name, value⟩ :: attributes, closed), rest)

/-- Reads the closing tag of an element. -/
def readClosing (name : List Char) (s : List Char) : Except Fault (List Char) := do
  match behind? "</" s with
  | none => throw .mismatch
  | some t =>
    let (closing, t) ← readName .markup t
    if closing ≠ name then throw .mismatch
    requireChar .markup '>' (skipSpace t)

/-! ## Content -/

/-- Reads nodes up to a closing tag or the end of the text.  `depth` counts the elements around
them and `steps` bounds the number of nodes. -/
def readNodes : Nat → Nat → List Char → Except Fault (List Draft × List Char)
  | 0, _, _ => .error .markup
  | steps + 1, depth, s =>
    match s with
    | [] => .ok ([], [])
    | '<' :: '/' :: _ => .ok ([], s)
    | '<' :: '?' :: t => do
      let ((target, data), rest) ← readInstruction t
      let (more, rest) ← readNodes steps depth rest
      pure (.instruction target data :: more, rest)
    | '<' :: '!' :: t =>
      match behind? "--" t with
      | some t => do
        let (content, rest) ← readComment t
        let (more, rest) ← readNodes steps depth rest
        pure (.comment content :: more, rest)
      | none =>
        match (behind? "[CDATA[" t).bind (upTo [']', ']', '>']) with
        | some (content, rest) => do
          let (more, rest) ← readNodes steps depth rest
          pure (Draft.join [.text content] more, rest)
        | none => .error .markup
    | '<' :: t => do
      let (name, t) ← readName .markup t
      let ((attributes, closed), rest) ← readAttributes steps t
      if maxElementDepth ≤ depth then throw .depth
      let (children, rest) ←
        if closed then pure ([], rest)
        else do
          let (children, rest) ← readNodes steps (depth + 1) rest
          let rest ← readClosing name rest
          pure (children, rest)
      let (more, rest) ← readNodes steps depth rest
      pure (.element name attributes children :: more, rest)
    | _ => do
      let drafts ← readText (s.takeWhile (· ≠ '<'))
      let (more, rest) ← readNodes steps depth (s.dropWhile (· ≠ '<'))
      pure (Draft.join drafts more, rest)

/-- Reads the root element that the text begins with.  It is the only node of its level, so the
reading stops behind it. -/
def readRoot (s : List Char) : Except Fault (Draft × List Char) :=
  match s with
  | '<' :: t => do
    let (name, t) ← readName .markup t
    let ((attributes, closed), rest) ← readAttributes (t.length + 1) t
    if closed then pure (.element name attributes [], rest)
    else do
      let (children, rest) ← readNodes (rest.length + 1) 1 rest
      let rest ← readClosing name rest
      pure (.element name attributes children, rest)
  | _ => .error .outside

end SvgBuilder.Markup
