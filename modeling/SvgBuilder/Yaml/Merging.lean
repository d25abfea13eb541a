import SvgBuilder.Yaml.Node
import SvgBuilder.Yaml.Value

/-!
# Merging mappings

A mapping may name others, by a merge key, whose entries count as its own.  They are put before
its own entries, and of several mappings in a sequence the later ones come first, so that an
entry always wins over what is merged, and an earlier mapping over a later one.

Merging happens in the table of nodes when a mapping is first looked into.  The mappings that are
named are settled first; one that names itself finds its own entries as they are then.

## Main definitions

* `settleMerges`: puts what a mapping merges before its own entries.
-/

namespace SvgBuilder.Yaml

/-- What is known while the nodes of a text become values. -/
structure Construction where
  nodes : Nodes
  /-- The values of the nodes that have one already. -/
  values : Array (Option Value)
  /-- What the collections hold. -/
  shared : Collections
  /-- The collections whose contents are still to be found, the last one first. -/
  pending : List Nat

/-- A step on the way from nodes to values. -/
abbrev Constructing := StateT Construction (Except Fault)

/-- The node of a number. -/
def nodeAt (number : Nat) : Constructing Node := do pure ((← get).nodes.get number)

/-- The entries of a mapping. -/
def entriesOf (number : Nat) : Constructing (List (Nat × Nat)) := do
  match (← nodeAt number).content with
  | .mapping entries => pure entries
  | _ => pure []

/-- Changes a node. -/
def change (number : Nat) (f : Node → Node) : Constructing Unit :=
  modify fun s =>
    { s with nodes := s.nodes.setIfInBounds number (f (s.nodes.get number)) }

/-- Gives a mapping other entries. -/
def setEntries (number : Nat) (entries : List (Nat × Nat)) : Constructing Unit :=
  change number fun node => { node with content := .mapping entries }

/-- The entries that a node contributes where a merge key names it.  `settle` settles the merge
keys of a mapping. -/
def contributed (settle : Nat → Constructing Unit) (number : Nat) :
    Constructing (List (Nat × Nat)) := do
  match (← nodeAt number).content with
  | .mapping _ => do
    settle number
    entriesOf number
  | .sequence items => do
    let parts ← items.mapM fun item => do
      match (← nodeAt item).content with
      | .mapping _ => do
        settle item
        entriesOf item
      | _ => throw .malformed
    pure parts.reverse.flatten
  | .scalar _ => throw .malformed

/-- Whether a key is to be settled. -/
def Kind.needsSettling (kind : Kind) : Bool := kind = .merge || kind = .standing

/-- The first entry from an index on whose key is to be settled: its index, the kind of its key, and
the entry. -/
def nextToSettle? (nodes : Nodes) (index : Nat) (entries : List (Nat × Nat)) :
    Option (Nat × Kind × Nat × Nat) :=
  let ahead := entries.drop index
  match ahead.findIdx? fun (key, _) => (nodes.get key).kind.needsSettling with
  | none => none
  | some skipped =>
    ahead[skipped]?.map fun (key, value) => (index + skipped, (nodes.get key).kind, key, value)

/-- Settles the merge keys of a mapping from an entry on; `merged` holds what the ones before it
contribute.  The first argument bounds the steps. -/
def settleFrom : Nat → Nat → Nat → List (Nat × Nat) → Constructing Unit
  | 0, _, _, _ => throw .recursion
  | steps + 1, number, index, merged => do
    let entries ← entriesOf number
    match nextToSettle? (← get).nodes index entries with
    | none => if !merged.isEmpty then setEntries number (merged ++ entries)
    | some (index, kind, key, value) =>
      if kind = .merge then
        setEntries number (entries.eraseIdx index)
        let more ← contributed (fun other => settleFrom steps other 0 []) value
        settleFrom steps number index (merged ++ more)
      else
        change key fun node => { node with kind := .text }
        settleFrom steps number (index + 1) merged

/-- How much a node holds. -/
def Content.size : Content → Nat
  | .scalar _ => 1
  | .sequence items => items.length + 1
  | .mapping entries => entries.length + 1

/-- Settles the merge keys of a mapping. -/
def settleMerges (number : Nat) : Constructing Unit := do
  let nodes := (← get).nodes
  if (nextToSettle? nodes 0 (← entriesOf number)).isSome then
    let size := nodes.foldl (fun n node => n + node.content.size) 1
    settleFrom (Nat.pow size 4) number 0 []

end SvgBuilder.Yaml
