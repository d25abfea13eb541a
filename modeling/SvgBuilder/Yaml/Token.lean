import SvgBuilder.Text.Utf8
import SvgBuilder.Yaml.Block
import SvgBuilder.Yaml.Scalar

/-!
# Tokens

The tokens that a text is made of.  Besides what is written there are tokens for the beginning of
a collection that only its indentation shows, and for its end.  This file reads the tokens that
are words: anchors, aliases, tags and directives.

## Main definitions

* `Token`, `Directive`: the tokens and the directives of a text.
* `readAnchor`, `readTag`, `readDirective`: the readers of words.
-/

namespace SvgBuilder.Yaml

open SvgBuilder.Text

/-- A line ahead of a document. -/
inductive Directive where
  /-- The version of the language. -/
  | version (major : Nat)
  /-- A handle for tags with what it stands for. -/
  | tag (handle tags : String)
  /-- Any other line. -/
  | other
  deriving DecidableEq, Repr

/-- The tokens of a text. -/
inductive Token where
  | directive (d : Directive)
  | documentStart
  | documentEnd
  | blockSequenceStart
  | blockMappingStart
  | blockEnd
  | flowSequenceStart
  | flowSequenceEnd
  | flowMappingStart
  | flowMappingEnd
  | blockEntry
  | flowEntry
  | key
  | value
  | reference (name : String)
  | anchor (name : String)
  | tag (handle : Option String) (ending : String)
  | scalar (text : ScalarText) (plain : Bool)
  deriving DecidableEq, Repr

/-- Letters, digits, hyphens and underscores of ASCII. -/
def isWordChar (c : Char) : Bool := c.isAlphanum || c = '-' || c = '_'

/-- Reads a word. -/
def readWord (c : Cursor) : Except Fault (String × Cursor) :=
  match c.span isWordChar with
  | ([], _) => .error .malformed
  | (word, c) => .ok (String.ofList word, c)

/-- Whether an anchor or an alias may end before a character. -/
def endsAnchor (c : Option Char) : Bool :=
  endsToken c || c.any (· ∈ "?:,]\x7d%@\x60".toList)

/-- Reads the name of an anchor or an alias. -/
def readAnchor (c : Cursor) : Except Fault (String × Cursor) := do
  let (name, c) ← readWord c
  if endsAnchor (c.peek 0) then pure (name, c) else throw .malformed

/-! ## Tags -/

/-- Reads escaped bytes, each a percent sign and two hexadecimal digits. -/
def escapedBytes : List Char → Except Fault (List UInt8)
  | '%' :: a :: b :: s =>
    match hexValue? a, hexValue? b with
    | some x, some y => (escapedBytes s).map (UInt8.ofNat (x * 16 + y) :: ·)
    | _, _ => .error .malformed
  | '%' :: _ => .error .malformed
  | _ => .ok []

/-- The characters of a tag that stand for themselves. -/
def isTagChar (c : Char) : Bool :=
  c.isAlphanum || c ∈ "-;/?:@&=+$,_.!~*\x27()[]".toList

/-- Reads the text of a tag. -/
def readTagText : Nat → Cursor → Except Fault (List Char × Cursor)
  | 0, _ => .error .malformed
  | steps + 1, c =>
    match c.peek 0 with
    | some '%' => do
      let bytes ← escapedBytes c.rest
      match Utf8.decode? bytes with
      | none => throw .malformed
      | some text =>
        let (more, c) ← readTagText steps (c.advance (3 * bytes.length))
        pure (text ++ more, c)
    | _ =>
      match c.span isTagChar with
      | ([], c) => .ok ([], c)
      | (text, c) => do
        let (more, c) ← readTagText steps c
        pure (text ++ more, c)

/-- Reads the text of a tag, which must not be empty. -/
def readTagEnding (c : Cursor) : Except Fault (String × Cursor) := do
  let (text, behind) ← readTagText (c.size + 1) c
  if behind.index = c.index then throw .malformed
  pure (String.ofList text, behind)

/-- Reads a handle: an exclamation mark, or a word between two of them. -/
def readHandle (c : Cursor) : Except Fault (String × Cursor) :=
  if c.peek 0 ≠ some '!' then .error .malformed
  else if c.peek 1 = some ' ' then .ok ("!", c.pass)
  else
    let (word, behind) := c.pass.span isWordChar
    if behind.peek 0 = some '!' then .ok (String.ofList ('!' :: word ++ ['!']), behind.pass)
    else .error .malformed

/-- Whether a tag that begins here has a handle of its own. -/
def hasHandle (s : List Char) : Bool :=
  (s.takeWhile fun c => !endsWord (some c)).contains '!'

/-- Reads a tag behind its exclamation mark. -/
def readTag (c : Cursor) : Except Fault (Token × Cursor) := do
  let (token, behind) ←
    if c.pass.peek 0 = some '<' then do
      let (ending, c) ← readTagEnding (c.advance 2)
      if c.peek 0 ≠ some '>' then throw .malformed
      pure (Token.tag none ending, c.pass)
    else if endsToken (c.pass.peek 0) then pure (Token.tag none "!", c.pass)
    else if hasHandle c.pass.rest then do
      let (handle, c) ← readHandle c
      let (ending, c) ← readTagEnding c
      pure (Token.tag (some handle) ending, c)
    else do
      let (ending, c) ← readTagEnding c.pass
      pure (Token.tag (some "!") ending, c)
  if endsWord (behind.peek 0) then pure (token, behind) else throw .malformed

/-! ## Directives -/

/-- Reads a number of digits. -/
def readNumber (c : Cursor) : Except Fault (Nat × Cursor) :=
  match c.span (·.isDigit) with
  | ([], _) => .error .malformed
  | (digits, c) => .ok (Number.ofDigits 10 (digits.map fun d => d.toNat - 48), c)

/-- Reads the version that a directive states. -/
def readVersion (c : Cursor) : Except Fault (Directive × Cursor) := do
  let (major, c) ← readNumber c.skipSpaces
  if c.peek 0 ≠ some '.' then throw .malformed
  let (_, c) ← readNumber c.pass
  if endsWord (c.peek 0) then pure (.version major, c) else throw .malformed

/-- Reads the handle that a directive declares. -/
def readTagDirective (c : Cursor) : Except Fault (Directive × Cursor) := do
  let (handle, c) ← readHandle c.skipSpaces
  if c.peek 0 ≠ some ' ' then throw .malformed
  let (tags, c) ← readTagEnding c.skipSpaces
  if endsWord (c.peek 0) then pure (.tag handle tags, c) else throw .malformed

/-- Reads a directive behind its percent sign, up to the end of the line. -/
def readDirective (c : Cursor) : Except Fault (Token × Cursor) := do
  let (name, c) ← readWord c
  if !endsWord (c.peek 0) then throw .malformed
  let (directive, c) ←
    if name = "YAML" then readVersion c
    else if name = "TAG" then readTagDirective c
    else pure (Directive.other, (c.span (!isBreak ·)).2)
  let c := c.skipSpaces.skipComment
  if endsLine (c.peek 0) then pure (.directive directive, (c.lineBreak?.map (·.2)).getD c)
  else throw .malformed

end SvgBuilder.Yaml
