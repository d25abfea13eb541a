import SvgBuilder.Yaml.Timestamp
import SvgBuilder.Yaml.TokenStream

/-!
# Nodes

The tokens of a text make up scalars, sequences and mappings, each of a kind.  The nodes of a text
stand in a table, and a collection names what it holds by number: a node may be given a name and
stand in several places by that name, even inside itself.  A text holds at most one node that is
in no other one.

## Main definitions

* `Nodes`: the table of the nodes of a text.
* `Node.ofTokens`: the nodes that tokens make up.
-/

namespace SvgBuilder.Yaml

open SvgBuilder.Text

/-- What a node holds; other nodes stand there by their numbers. -/
inductive Content where
  | scalar (text : ScalarText)
  | sequence (items : List Nat)
  | mapping (entries : List (Nat × Nat))

/-- A node of a text. -/
structure Node where
  kind : Kind
  content : Content

/-- The node where a value is left out. -/
def Node.empty : Node := ⟨.null, .scalar (.text "")⟩

/-- The nodes of a text by their numbers. -/
abbrev Nodes := Array Node

/-- The node of a number. -/
def Nodes.get (nodes : Nodes) (number : Nat) : Node := nodes.getD number .empty

/-- The kind of a scalar without a tag. -/
def Kind.implicit (s : String) : Kind :=
  let plain := withoutLineEnd s.toList
  let word := String.ofList plain
  if s = "" then .null
  else if word ∈ truthWords then .truth
  else if looksFloat plain then .float
  else if looksInteger plain then .integer
  else if word = "<<" then .merge
  else if word ∈ nullWords then .null
  else if looksTimestamp plain then .timestamp
  else if word = "=" then .standing
  else if word ∈ ["!", "&", "*"] then .unknown
  else .text

/-- How deeply nodes may be nested. -/
def maxNodeDepth : Nat := 487

/-- The tokens that are left, the names and the nodes so far, and the number of collections that
are open. -/
structure Reader where
  stream : TokenStream
  names : List (String × Nat)
  nodes : Nodes
  depth : Nat

namespace Reader

/-- The next token, if there is one. -/
def peek (r : Reader) : Except Fault (Option Token) :=
  match r.stream.tokens with
  | t :: _ => .ok (some t)
  | [] =>
    match r.stream.fault with
    | some f => .error f
    | none => .ok none

/-- The reader behind the next token. -/
def next (r : Reader) : Reader :=
  { r with stream := ⟨r.stream.tokens.tail, r.stream.fault⟩ }

/-- The reader behind a token that has to be the next one. -/
def expect (token : Token) (r : Reader) : Except Fault Reader := do
  if (← r.peek) = some token then pure r.next else throw .malformed

/-- Puts a node into the table. -/
def add (node : Node) (r : Reader) : Nat × Reader :=
  (r.nodes.size, { r with nodes := r.nodes.push node })

/-- Gives a name to a node. -/
def bind (name : Option String) (number : Nat) (r : Reader) : Reader :=
  match name with
  | none => r
  | some name => { r with names := (name, number) :: r.names }

/-- Begins a collection, which may be named before it is complete. -/
def begin (name : Option String) (node : Node) (r : Reader) : Except Fault (Nat × Reader) :=
  if r.depth < maxNodeDepth then
    let (number, r) := r.add node
    .ok (number, { r.bind name number with depth := r.depth + 1 })
  else .error .recursion

/-- Completes a collection. -/
def finish (number : Nat) (node : Node) (r : Reader) : Reader :=
  { r with nodes := r.nodes.setIfInBounds number node, depth := r.depth - 1 }

end Reader

/-- The handles of tags with what they stand for. -/
abbrev Handles := List (String × String)

/-- The handles that need no declaration. -/
def defaultHandles : Handles := [("!", "!"), ("!!", languageTags)]

/-- What a node is given besides its content: a name and a tag. -/
structure Properties where
  name : Option String
  tag : Option String

/-- The tag that is written with a handle. -/
def tagOf (handles : Handles) (handle : Option String) (ending : String) :
    Except Fault String :=
  match handle with
  | none => .ok ending
  | some handle =>
    match handles.lookup handle with
    | some tags => .ok (tags ++ ending)
    | none => .error .malformed

/-- Reads a name and a tag, in either order. -/
def readProperties (handles : Handles) (r : Reader) : Except Fault (Properties × Reader) := do
  match ← r.peek with
  | some (.anchor name) =>
    match ← r.next.peek with
    | some (.tag handle ending) => do
      let tag ← tagOf handles handle ending
      pure (⟨some name, some tag⟩, r.next.next)
    | _ => pure (⟨some name, none⟩, r.next)
  | some (.tag handle ending) =>
    match ← r.next.peek with
    | some (.anchor name) => do
      let tag ← tagOf handles handle ending
      pure (⟨some name, some tag⟩, r.next.next)
    | _ => do
      let tag ← tagOf handles handle ending
      pure (⟨none, some tag⟩, r.next)
  | _ => pure (⟨none, none⟩, r)

/-- The kind of a collection. -/
def collectionKind (default : Kind) (tag : Option String) : Kind :=
  match tag with
  | none => default
  | some tag => if tag = "!" then default else Kind.ofTag tag

/-- The kind of a scalar. -/
def scalarKind (tag : Option String) (plain : Bool) (text : ScalarText) : Kind :=
  let implicit := match text with
    | .text s => Kind.implicit s
    | .codes _ => .text
  match tag with
  | none => if plain then implicit else .text
  | some tag => if tag = "!" then implicit else Kind.ofTag tag

/-- Where a node stands. -/
inductive Context where
  /-- Inside brackets. -/
  | flow
  | block
  /-- A part of an entry of a block mapping, where a sequence needs no deeper indentation. -/
  | entry
  deriving DecidableEq

/-- Whether the next token is one of some tokens. -/
def nextIs (tokens : List Token) (r : Reader) : Except Fault Bool := do
  match ← r.peek with
  | some t => pure (tokens.contains t)
  | none => pure false

mutual

/-- Reads a node.  `steps` bounds the number of parts. -/
def readNode (handles : Handles) (context : Context) :
    Nat → Reader → Except Fault (Nat × Reader)
  | 0, _ => .error .malformed
  | steps + 1, r => do
    match ← r.peek with
    | some (.reference name) =>
      match r.names.lookup name with
      | some number => pure (number, r.next)
      | none => throw .malformed
    | _ =>
      let (properties, r) ← readProperties handles r
      if properties.name.any fun name => (r.names.lookup name).isSome then throw .malformed
      let sequenceKind := collectionKind .sequence properties.tag
      let mappingKind := collectionKind .mapping properties.tag
      let beginSequence := Reader.begin properties.name ⟨sequenceKind, .sequence []⟩
      let beginMapping := Reader.begin properties.name ⟨mappingKind, .mapping []⟩
      let finishSequence (number : Nat) (items : List Nat) :=
        Reader.finish number ⟨sequenceKind, .sequence items⟩
      let finishMapping (number : Nat) (entries : List (Nat × Nat)) :=
        Reader.finish number ⟨mappingKind, .mapping entries⟩
      let addScalar (plain : Bool) (text : ScalarText) (r : Reader) :=
        let (number, r) := r.add ⟨scalarKind properties.tag plain text, .scalar text⟩
        (number, r.bind properties.name number)
      match ← r.peek with
      | some (.scalar text plain) => pure (addScalar plain text r.next)
      | some .flowSequenceStart => do
        let (number, r) ← beginSequence r.next
        let (items, r) ← readFlowItems handles true steps r
        pure (number, finishSequence number items r)
      | some .flowMappingStart => do
        let (number, r) ← beginMapping r.next
        let (entries, r) ← readFlowEntries handles true steps r
        pure (number, finishMapping number entries r)
      | token =>
        if token = some .blockEntry ∧ context = .entry then do
          let (number, r) ← beginSequence r
          let (items, r) ← readItems handles true steps r
          pure (number, finishSequence number items r)
        else if token = some .blockSequenceStart ∧ context ≠ .flow then do
          let (number, r) ← beginSequence r.next
          let (items, r) ← readItems handles false steps r
          let r ← r.expect .blockEnd
          pure (number, finishSequence number items r)
        else if token = some .blockMappingStart ∧ context ≠ .flow then do
          let (number, r) ← beginMapping r.next
          let (entries, r) ← readEntries handles steps r
          let r ← r.expect .blockEnd
          pure (number, finishMapping number entries r)
        else if properties.name.isSome || properties.tag.isSome then
          pure (addScalar true (.text "") r)
        else throw .malformed

/-- Reads a node unless one of some tokens shows that it is left out. -/
def readOptionalNode (handles : Handles) (context : Context) (absent : List Token) :
    Nat → Reader → Except Fault (Nat × Reader)
  | 0, _ => .error .malformed
  | steps + 1, r => do
    if ← nextIs absent r then pure (r.add .empty) else readNode handles context steps r

/-- Reads a node behind a mark; without the mark it is left out. -/
def readMarkedNode (handles : Handles) (context : Context) (mark : Token) (absent : List Token) :
    Nat → Reader → Except Fault (Nat × Reader)
  | 0, _ => .error .malformed
  | steps + 1, r => do
    if ← nextIs [mark] r then readOptionalNode handles context absent steps r.next
    else pure (r.add .empty)

/-- Reads the items of a block sequence. -/
def readItems (handles : Handles) (inEntry : Bool) :
    Nat → Reader → Except Fault (List Nat × Reader)
  | 0, _ => .error .malformed
  | steps + 1, r => do
    if ← nextIs [.blockEntry] r then
      let absent :=
        if inEntry then [Token.blockEntry, .key, .value, .blockEnd] else [.blockEntry, .blockEnd]
      let (item, r) ← readOptionalNode handles .block absent steps r.next
      let (items, r) ← readItems handles inEntry steps r
      pure (item :: items, r)
    else pure ([], r)

/-- Reads the entries of a block mapping. -/
def readEntries (handles : Handles) : Nat → Reader → Except Fault (List (Nat × Nat) × Reader)
  | 0, _ => .error .malformed
  | steps + 1, r => do
    let absent := [Token.key, .value, .blockEnd]
    if ← nextIs [.key] r then
      let (key, r) ← readOptionalNode handles .entry absent steps r.next
      let (value, r) ← readMarkedNode handles .entry .value absent steps r
      let (entries, r) ← readEntries handles steps r
      pure ((key, value) :: entries, r)
    else pure ([], r)

/-- Reads the items of a sequence in brackets. -/
def readFlowItems (handles : Handles) (first : Bool) :
    Nat → Reader → Except Fault (List Nat × Reader)
  | 0, _ => .error .malformed
  | steps + 1, r => do
    if ← nextIs [.flowSequenceEnd] r then pure ([], r.next)
    else
      let r ← if first then pure r else r.expect .flowEntry
      if ← nextIs [.flowSequenceEnd] r then pure ([], r.next)
      else
        let (item, r) ←
          if ← nextIs [.key] r then do
            let absent := [Token.flowEntry, .flowSequenceEnd]
            let (number, r) ← r.next.begin none ⟨.mapping, .mapping []⟩
            let (key, r) ← readOptionalNode handles .flow (.value :: absent) steps r
            let (value, r) ← readMarkedNode handles .flow .value absent steps r
            pure (number, r.finish number ⟨.mapping, .mapping [(key, value)]⟩)
          else readNode handles .flow steps r
        let (items, r) ← readFlowItems handles false steps r
        pure (item :: items, r)

/-- Reads the entries of a mapping in brackets. -/
def readFlowEntries (handles : Handles) (first : Bool) :
    Nat → Reader → Except Fault (List (Nat × Nat) × Reader)
  | 0, _ => .error .malformed
  | steps + 1, r => do
    if ← nextIs [.flowMappingEnd] r then pure ([], r.next)
    else
      let r ← if first then pure r else r.expect .flowEntry
      if ← nextIs [.flowMappingEnd] r then pure ([], r.next)
      else
        let absent := [Token.flowEntry, .flowMappingEnd]
        let (entry, r) ←
          if ← nextIs [.key] r then do
            let (key, r) ←
              readOptionalNode handles .flow (.value :: absent) steps r.next
            let (value, r) ← readMarkedNode handles .flow .value absent steps r
            pure ((key, value), r)
          else do
            let (key, r) ← readNode handles .flow steps r
            let (value, r) := r.add .empty
            pure ((key, value), r)
        let (entries, r) ← readFlowEntries handles false steps r
        pure (entry :: entries, r)

end

/-! ## Documents -/

/-- What the directives so far say. -/
structure Directives where
  versionStated : Bool
  handles : Handles

/-- Takes one more directive into account. -/
def Directives.take (d : Directives) : Directive → Except Fault Directives
  | .version major =>
    if d.versionStated || major ≠ 1 then .error .malformed else .ok { d with versionStated := true }
  | .tag handle tags =>
    if (d.handles.lookup handle).isSome then .error .malformed
    else .ok { d with handles := (handle, tags) :: d.handles }
  | .other => .ok d

/-- Reads directives. -/
def readDirectives : Nat → Directives → Reader → Except Fault (Directives × Reader)
  | 0, _, _ => .error .malformed
  | steps + 1, d, r => do
    match ← r.peek with
    | some (.directive directive) => do
      let d ← d.take directive
      readDirectives steps d r.next
    | _ => pure (d, r)

/-- The reader behind the marks of the ends of documents. -/
def skipEnds : Nat → Reader → Except Fault Reader
  | 0, _ => .error .malformed
  | steps + 1, r => do
    if ← nextIs [.documentEnd] r then skipEnds steps r.next else pure r

/-- Reads a document that begins with directives or a separator. -/
def readExplicit (steps : Nat) (r : Reader) : Except Fault (Nat × Reader) := do
  let (d, r) ← readDirectives steps ⟨false, []⟩ r
  let r ← r.expect .documentStart
  match ← r.peek with
  | none => pure (r.add .empty)
  | some (.directive _) => pure (r.add .empty)
  | some .documentStart => pure (r.add .empty)
  | some .documentEnd => pure (r.add .empty)
  | some _ => readNode (d.handles ++ defaultHandles) .block steps r

/-- The nodes that tokens make up, and the number of the one around the others, if there is one. -/
def Node.ofTokens (stream : TokenStream) : Except Fault (Option (Nodes × Nat)) := do
  let steps := 8 * stream.tokens.length + 8
  let r : Reader := ⟨stream, [], #[], 0⟩
  match ← r.peek with
  | none => pure none
  | some token =>
    let explicit := match token with
      | .directive _ => true
      | .documentStart => true
      | _ => false
    let (number, r) ←
      if explicit then readExplicit steps r else readNode defaultHandles .block steps r
    let r ← skipEnds steps r
    match ← r.peek with
    | none => pure (some (r.nodes, number))
    | some _ => throw .malformed

end SvgBuilder.Yaml
