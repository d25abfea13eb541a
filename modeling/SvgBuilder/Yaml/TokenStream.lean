import SvgBuilder.Yaml.Token

/-!
# The tokens of a text

Tokens are read from left to right.  Outside of brackets the indentation opens and closes
collections.  A colon may show that what stands before it on the line is a key: every place where
a key might begin is kept until the line ends or another such place takes over, and the colon puts
the token for the key in there.

If the text cannot be read to its end, the tokens up to there are kept with the fault, because
what is wrong with them comes first.

## Main definitions

* `TokenStream.of`: the tokens of a text, and the fault that they end with.
-/

namespace SvgBuilder.Yaml

/-- A place where a key may begin. -/
structure PendingKey where
  /-- The number of tokens before it. -/
  place : Nat
  /-- Whether what begins there has to be a key. -/
  required : Bool
  index : Nat
  line : Nat
  column : Nat

/-- The longest distance of a colon from the beginning of its key. -/
def maxKeyDistance : Nat := 1024

/-- What is known between two tokens. -/
structure Lexer where
  cursor : Cursor
  /-- The tokens so far, in reverse. -/
  tokens : List Token
  /-- The number of tokens so far. -/
  count : Nat
  /-- The number of brackets that are open. -/
  flow : Nat
  /-- The indentation of the innermost collection, and of those around it. -/
  indent : Int
  outer : List Int
  /-- Whether a key may begin here. -/
  keyAllowed : Bool
  /-- The places of possible keys by the number of brackets around them. -/
  keys : List (Nat × PendingKey)

namespace Lexer

/-- The beginning of a text. -/
def start (s : List Char) : Lexer :=
  let cursor := Cursor.start s
  { cursor := if cursor.peek 0 = some byteOrderMark then cursor.pass else cursor
    tokens := [], count := 0, flow := 0, indent := -1, outer := [], keyAllowed := true, keys := [] }

/-- Adds tokens. -/
def emit (l : Lexer) (tokens : List Token) : Lexer :=
  { l with tokens := tokens.reverse ++ l.tokens, count := l.count + tokens.length }

/-- Moves on. -/
def moveTo (l : Lexer) (cursor : Cursor) : Lexer := { l with cursor }

/-! ## Indentation -/

/-- Closes the collections that are indented more deeply than a column. -/
def closeTo (column : Int) : Nat → Lexer → Lexer
  | 0, l => l
  | steps + 1, l =>
    if column < l.indent then
      closeTo column steps
        { l with
          tokens := .blockEnd :: l.tokens
          count := l.count + 1
          indent := l.outer.headD (-1)
          outer := l.outer.tail }
    else l

/-- Closes the collections that are indented more deeply than a column, outside of brackets. -/
def unwind (column : Int) (l : Lexer) : Lexer :=
  if l.flow = 0 then l.closeTo column (l.outer.length + 1) else l

/-- Whether a collection in this column is a new one, and the lexer inside of it. -/
def openAt (column : Int) (l : Lexer) : Bool × Lexer :=
  if l.indent < column then (true, { l with indent := column, outer := l.indent :: l.outer })
  else (false, l)

/-! ## Possible keys -/

/-- Gives up the places that are too far away. -/
def dropStale (l : Lexer) : Except Fault Lexer :=
  let stale (k : PendingKey) : Bool :=
    k.line ≠ l.cursor.line || maxKeyDistance < l.cursor.index - k.index
  if l.keys.any fun (_, k) => stale k && k.required then .error .malformed
  else .ok { l with keys := l.keys.filter fun (_, k) => !stale k }

/-- Gives up the place inside the innermost brackets. -/
def dropKey (l : Lexer) : Except Fault Lexer :=
  match l.keys.lookup l.flow with
  | none => .ok l
  | some k =>
    if k.required then .error .malformed
    else .ok { l with keys := l.keys.filter (·.1 ≠ l.flow) }

/-- Keeps this place if a key may begin here. -/
def saveKey (l : Lexer) : Except Fault Lexer :=
  if l.keyAllowed then do
    let dropped ← l.dropKey
    let c := l.cursor
    let key : PendingKey :=
      ⟨l.count, l.flow = 0 && l.indent = c.column, c.index, c.line, c.column⟩
    pure { dropped with keys := (l.flow, key) :: dropped.keys }
  else pure l

/-- Puts tokens in behind the first ones. -/
def insertAt (place : Nat) (tokens : List Token) (l : Lexer) : Lexer :=
  let behind := l.count - place
  { l with
    tokens := l.tokens.take behind ++ tokens.reverse ++ l.tokens.drop behind
    count := l.count + tokens.length }

/-! ## Reading tokens -/

/-- Passes over blanks, comments and line ends. -/
def toNextToken : Nat → Lexer → Lexer
  | 0, l => l
  | steps + 1, l =>
    let c := l.cursor.skipSpaces.skipComment
    match c.lineBreak? with
    | none => l.moveTo c
    | some (_, c) =>
      toNextToken steps { l with cursor := c, keyAllowed := l.keyAllowed || l.flow = 0 }

/-- Closes what is open before a directive, a separator of documents or the end. -/
def closeAll (l : Lexer) : Except Fault Lexer := do
  let l ← (l.unwind (-1)).dropKey
  pure { l with keyAllowed := false }

/-- Reads a separator of documents. -/
def readSeparator (token : Token) (l : Lexer) : Except Fault Lexer := do
  let l ← l.closeAll
  pure ((l.moveTo (l.cursor.advance 3)).emit [token])

/-- Reads an opening bracket. -/
def readOpening (token : Token) (l : Lexer) : Except Fault Lexer := do
  let l ← l.saveKey
  pure ({ l with flow := l.flow + 1, keyAllowed := true, cursor := l.cursor.pass }.emit [token])

/-- Reads a closing bracket. -/
def readClosing (token : Token) (l : Lexer) : Except Fault Lexer := do
  let l ← l.dropKey
  if l.flow = 0 then throw .malformed
  pure ({ l with flow := l.flow - 1, keyAllowed := false, cursor := l.cursor.pass }.emit [token])

/-- Opens a collection in the column of the cursor unless it is open, outside of brackets. -/
def openHere (token : Token) (l : Lexer) : Except Fault Lexer :=
  if l.flow = 0 then
    if !l.keyAllowed then .error .malformed
    else
      let (isNew, l) := l.openAt l.cursor.column
      .ok (if isNew then l.emit [token] else l)
  else .ok l

/-- Reads a comma. -/
def readFlowEntry (l : Lexer) : Except Fault Lexer := do
  let l ← { l with keyAllowed := true }.dropKey
  pure ((l.moveTo l.cursor.pass).emit [.flowEntry])

/-- Reads the hyphen of an entry. -/
def readBlockEntry (l : Lexer) : Except Fault Lexer := do
  let l ← l.openHere .blockSequenceStart
  let l ← { l with keyAllowed := true }.dropKey
  pure ((l.moveTo l.cursor.pass).emit [.blockEntry])

/-- Reads the question mark of a key. -/
def readKey (l : Lexer) : Except Fault Lexer := do
  let l ← l.openHere .blockMappingStart
  let l ← { l with keyAllowed := l.flow = 0 }.dropKey
  pure ((l.moveTo l.cursor.pass).emit [.key])

/-- Reads the colon of a value. -/
def readValue (l : Lexer) : Except Fault Lexer := do
  let l ← match l.keys.lookup l.flow with
    | some k =>
      let l := { l with keys := l.keys.filter (·.1 ≠ l.flow), keyAllowed := false }
      let (isNew, l) := if l.flow = 0 then l.openAt k.column else (false, l)
      pure (l.insertAt k.place (if isNew then [.blockMappingStart, .key] else [.key]))
    | none => do
      let l ← l.openHere .blockMappingStart
      { l with keyAllowed := l.flow = 0 }.dropKey
  pure ((l.moveTo l.cursor.pass).emit [.value])

/-- Reads a token that may be a key, behind its first character. -/
def readWith (read : Cursor → Except Fault (Token × Cursor)) (l : Lexer) :
    Except Fault Lexer := do
  let l ← l.saveKey
  let (token, c) ← read l.cursor.pass
  pure ({ l with keyAllowed := false, cursor := c }.emit [token])

/-- Reads a block scalar. -/
def readBlockScalar (folded : Bool) (l : Lexer) : Except Fault Lexer := do
  let l ← { l with keyAllowed := true }.dropKey
  let (text, c) ← readBlock folded l.indent l.cursor.pass
  pure ((l.moveTo c).emit [.scalar (.text (String.ofList text)) false])

/-- Reads a quoted scalar behind its first quote. -/
def quotedToken (double : Bool) (c : Cursor) : Except Fault (Token × Cursor) := do
  let (text, c) ← readQuoted double (c.size + 1) c
  pure (.scalar (.ofCodes text) false, c)

/-- Reads a plain scalar. -/
def readPlainScalar (l : Lexer) : Except Fault Lexer := do
  let l ← l.saveKey
  let ((text, broken), c) :=
    readPlain (l.flow ≠ 0) (l.indent + 1) (l.cursor.size + 1) l.cursor
  let text := ScalarText.text (String.ofList text)
  pure ({ l with keyAllowed := broken, cursor := c }.emit [.scalar text true])

/-- Reads a tag from its exclamation mark on. -/
def readTagToken (l : Lexer) : Except Fault Lexer := do
  let l ← l.saveKey
  let (token, c) ← readTag l.cursor
  pure ({ l with keyAllowed := false, cursor := c }.emit [token])

/-- The characters that no plain scalar begins with by themselves. -/
def indicators : List Char := "-?:,[]\x7b\x7d#&*!|>\x27\x22%@\x60".toList

/-- Whether a plain scalar begins here. -/
def startsPlain (l : Lexer) : Bool :=
  match l.cursor.peek 0 with
  | none => false
  | some d =>
    (!endsToken (some d) && d ∉ indicators) ||
      (!endsToken (l.cursor.peek 1) && (d = '-' || (l.flow = 0 && (d = '?' || d = ':'))))

/-- Reads the next token from its first character on. -/
def readToken (d : Char) (l : Lexer) : Except Fault Lexer :=
  let c := l.cursor
  let mark := l.flow ≠ 0 || endsToken (c.peek 1)
  if d = '%' && c.column = 0 then do
    let l ← l.closeAll
    let (token, c) ← readDirective l.cursor.pass
    pure ((l.moveTo c).emit [token])
  else if c.column = 0 && c.atSeparator then
    l.readSeparator (if d = '-' then .documentStart else .documentEnd)
  else if d = '[' then l.readOpening .flowSequenceStart
  else if d = '\x7b' then l.readOpening .flowMappingStart
  else if d = ']' then l.readClosing .flowSequenceEnd
  else if d = '\x7d' then l.readClosing .flowMappingEnd
  else if d = ',' then l.readFlowEntry
  else if d = '-' && endsToken (c.peek 1) then l.readBlockEntry
  else if d = '?' && mark then l.readKey
  else if d = ':' && mark then l.readValue
  else if d = '*' then l.readWith fun c => (readAnchor c).map fun (name, c) => (.reference name, c)
  else if d = '&' then l.readWith fun c => (readAnchor c).map fun (name, c) => (.anchor name, c)
  else if d = '!' then l.readTagToken
  else if d = '|' && l.flow = 0 then l.readBlockScalar false
  else if d = '>' && l.flow = 0 then l.readBlockScalar true
  else if d = '\x27' then l.readWith (quotedToken false)
  else if d = '\x22' then l.readWith (quotedToken true)
  else if l.startsPlain then l.readPlainScalar
  else .error .malformed

/-- Goes on to the next token, ready to read it. -/
def advance (l : Lexer) : Except Fault Lexer := do
  let l ← (l.toNextToken (l.cursor.size + 1)).dropStale
  pure (l.unwind l.cursor.column)

end Lexer

/-- The tokens of a text, and the fault that they end with if there is one. -/
structure TokenStream where
  tokens : List Token
  fault : Option Fault

/-- Reads tokens to the end of the text.  `steps` bounds their number. -/
def TokenStream.read : Nat → Lexer → TokenStream
  | 0, l => ⟨l.tokens.reverse, some .malformed⟩
  | steps + 1, l =>
    match l.advance with
    | .error f => ⟨l.tokens.reverse, some f⟩
    | .ok l =>
      match l.cursor.rest with
      | [] =>
        match l.closeAll with
        | .error f => ⟨l.tokens.reverse, some f⟩
        | .ok l => ⟨l.tokens.reverse, none⟩
      | d :: _ =>
        match l.readToken d with
        | .error f => ⟨l.tokens.reverse, some f⟩
        | .ok l => read steps l

/-- The tokens of a text. -/
def TokenStream.of (s : List Char) : TokenStream := TokenStream.read (s.length + 2) (Lexer.start s)

end SvgBuilder.Yaml
