import SvgBuilder.Text.LineEnd
import SvgBuilder.Yaml.Merging
import SvgBuilder.Yaml.ScalarValue

/-!
# The value of a text

The nodes of a text become values, each node once.  A scalar has its value at once.  A collection
is known by its number at first, and what it holds is found afterwards, in the order in which the
collections have been met; so a collection may hold itself, and of several faults the one that is
nested least deeply is reported.

A scalar may be written as a mapping with an entry that stands for it.

## Main definitions

* `readValue`: the value of a text, and what its collections hold.
-/

namespace SvgBuilder.Yaml

open SvgBuilder.Text

/-- Whether nodes of a kind are collections. -/
def Kind.isCollection : Kind → Bool
  | .orderedMap | .pairs | .set | .sequence | .mapping => true
  | _ => false

/-- Whether a kind says nothing about what a node is. -/
def Kind.isUnknown : Kind → Bool
  | .merge | .standing | .unknown => true
  | _ => false

/-! ## Scalars -/

/-- The text of a node where a scalar is wanted: its own, or in a mapping that of the first entry
that stands for it.  The first argument bounds the steps. -/
def scalarTextOf : Nat → Nat → Constructing ScalarText
  | 0, _ => throw .recursion
  | steps + 1, number => do
    match (← nodeAt number).content with
    | .scalar text => pure text
    | .sequence _ => throw .malformed
    | .mapping entries =>
      let nodes := (← get).nodes
      match entries.find? fun (key, _) => (nodes.get key).kind = .standing with
      | some (_, value) => scalarTextOf steps value
      | none => throw .malformed

/-- The value of a node of a kind that is no collection. -/
def constructScalar (number : Nat) (node : Node) : Constructing Value := do
  if node.kind.isUnknown then throw .malformed
  let text ← scalarTextOf ((← get).nodes.size + 1) number
  match node.kind, node.content with
  | .timestamp, .mapping _ => throw .timestampMapping
  | kind, _ =>
    match text with
    | .text s => scalarValue kind number s
    | .codes codes => codesValue kind codes

/-! ## Collections -/

/-- The value of a node.  What a collection holds is left for later. -/
def construct (number : Nat) : Constructing Value := do
  match ((← get).values.getD number none) with
  | some value => pure value
  | none => do
    let node ← nodeAt number
    let value ←
      if node.kind.isCollection then do
        modify fun s => { s with pending := number :: s.pending }
        pure (Value.numbered number)
      else constructScalar number node
    modify fun s => { s with values := s.values.setIfInBounds number (some value) }
    pure value

/-- Whether a value may be a key. -/
def isHashable : Value → Bool
  | .numbered _ => false
  | _ => true

/-- The keys and values of a mapping. -/
def constructEntries (number : Nat) : Constructing (List (Value × Value)) := do
  match (← nodeAt number).content with
  | .mapping _ => do
    settleMerges number
    let entries ← (← entriesOf number).mapM fun (key, value) => do
      let key ← construct key
      if !isHashable key then throw .malformed
      pure (key, ← construct value)
    pure (OrderedMap.ofPairs entries)
  | _ => throw .malformed

/-- Gives a value a number of its own. -/
def share (value : Value) : Constructing Value := do
  let number := (← get).shared.size
  modify fun s => { s with shared := s.shared.push value }
  pure (.numbered number)

/-- The pair that a mapping of one entry is. -/
def constructPair (number : Nat) : Constructing Value := do
  match (← nodeAt number).content with
  | .mapping [(key, value)] => do
    let key ← construct key
    share (.pair key (← construct value))
  | _ => throw .malformed

/-- The nodes in a sequence. -/
def itemsOf (node : Node) : Constructing (List Nat) :=
  match node.content with
  | .sequence items => pure items
  | _ => throw .malformed

/-- What a collection holds. -/
def constructContent (number : Nat) : Constructing Value := do
  let node ← nodeAt number
  match node.kind with
  | .mapping => pure (.mapping (← constructEntries number))
  | .set => pure (.set (Value.ascending ((← constructEntries number).map (·.1))))
  | .sequence => pure (.list (← (← itemsOf node).mapM construct))
  | _ => pure (.list (← (← itemsOf node).mapM constructPair))

/-- Finds what the collections hold that have been met, and then those that are met on the way.
The number bounds the rounds. -/
def constructPending : Nat → Constructing Unit
  | 0 => pure ()
  | rounds + 1 => do
    let met := (← get).pending.reverse
    if !met.isEmpty then
      modify fun s => { s with pending := [] }
      met.forM fun number => do
        let value ← constructContent number
        modify fun s => { s with shared := s.shared.setIfInBounds number value }
      constructPending rounds

/-! ## Texts -/

/-- The value of a node and what the collections hold. -/
def Nodes.value (nodes : Nodes) (number : Nat) : Except Fault (Collections × Value) := do
  let start : Construction :=
    ⟨nodes, Array.replicate nodes.size none, Array.replicate nodes.size .null, []⟩
  let ((value, _), last) ← StateT.run (s := start) do
    let value ← construct number
    constructPending (nodes.size + 1)
    pure (value, ())
  pure (last.shared, value)

/-- Reads the value of a text, if it holds one, and what the collections hold. -/
def readValue (s : List Char) : Except Fault (Collections × Value) :=
  if s.all isAllowed then do
    match ← Node.ofTokens (TokenStream.of (normalized s)) with
    | none => pure (#[], .null)
    | some (nodes, number) => nodes.value number
  else .error .malformed

end SvgBuilder.Yaml
