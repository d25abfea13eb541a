import SvgBuilder.Markup.Replacement
import SvgBuilder.Markup.Scope
import SvgBuilder.Markup.Uri

/-!
# From drafts to nodes

Resolving a draft settles what its names and its entities stand for, in the order of the document.
An element enters a scope with its own declarations; its name takes the default namespace when it
has no prefix, while the name of an attribute without a prefix is in no namespace.  A name whose
prefix is not declared is in no namespace and keeps the prefix.

What is wrong with a name or a declaration is noted.  Two attributes must not be written the same,
and two declarations of one element must not be of one prefix: that ends the reading.

The text of an entity is read where it is first referred to between tags.  Its nodes are not kept,
but its problems are those of the document.  The namespaces around it do not count in it, and
neither do the identifiers in it.

## Main results

* `declare_nodup`: the declarations of an element are of different prefixes.
* `Attribute.name_firstValue`: giving attributes of one name one value keeps their names.
-/

namespace SvgBuilder.Markup

open SvgBuilder.Text

/-- What stands around a draft. -/
structure Surroundings where
  declarations : Declarations
  /-- How many texts of entities may be nested here. -/
  levels : Nat
  /-- Whether the draft stands in the text of an entity. -/
  inEntity : Bool
  /-- Reads the text of an entity inside a number of elements. -/
  readText : Nat → List Char → Reading Unit

/-! ## Names -/

/-- The parts of a name.  A name that cannot be taken apart is all local. -/
def qualify (name : List Char) : Reading QualifiedName :=
  match QualifiedName.ofName? name with
  | some q => pure q
  | none => do
    note .qualifiedName
    pure ⟨none, String.ofList name⟩

/-- The namespace of a prefix. -/
def spaceOf? (scope : Scope) (label : String) : Option String :=
  if label = "xml" then some markupSpace else scope.uri? (some label)

/-- The expanded name of a name, which is in the given namespace if it has no prefix. -/
def expandName (scope : Scope) (default : Option String) (q : QualifiedName) : Reading Name :=
  match q.label with
  | none => pure ⟨default, q.localName⟩
  | some label =>
    match spaceOf? scope label with
    | some uri => pure ⟨some uri, q.localName⟩
    | none => do
      note .undeclaredLabel
      pure ⟨none, label ++ ":" ++ q.localName⟩

/-- The default namespace of a scope. -/
def defaultSpace (scope : Scope) : Option String := (scope.uri? none).filter (· ≠ "")

/-! ## Declarations of namespaces -/

/-- The prefix, or none, that an attribute declares a namespace for. -/
def QualifiedName.declared? : QualifiedName → Option (Option String)
  | ⟨none, "xmlns"⟩ => some none
  | ⟨some "xmlns", label⟩ => some (some label)
  | _ => none

/-- Notes what is wrong with a namespace as a reference to a resource. -/
def noteSpace (label : Option String) (uri : List Char) : Reading Unit :=
  if uri.isEmpty then pure ()
  else if !isUriReference uri then note .invalidSpace
  else if label = none ∧ !isAbsoluteUri uri then note .relativeSpace
  else pure ()

/-- Whether a declaration must not be made: it concerns one of the two namespaces that are fixed,
or takes a namespace away from a prefix. -/
def isForbidden (label : Option String) (uri : String) : Bool :=
  uri = markupSpace || uri = declarationSpace || label = some "xmlns" ||
    (label.isSome && uri = "")

/-- The binding that a declaration makes, if it makes one.  The prefix of the markup language
itself stands for its namespace in every scope, so that declaring it makes no binding. -/
def bindingOf (label : Option String) (uri : List Char) : Reading (Option Binding) := do
  let name := String.ofList uri
  if label = some "xml" then
    if name ≠ markupSpace then note .declaration
    pure none
  else do
    if label = none ∨ !isForbidden label name then noteSpace label uri
    if isForbidden label name then
      note .declaration
      pure none
    else pure (some ⟨label, name⟩)

/-- Puts a binding behind others of different prefixes. -/
def declare (bindings : List Binding) (binding : Binding) : Except Fault (List Binding) :=
  if bindings.any (·.label = binding.label) then .error .duplicate
  else .ok (bindings ++ [binding])

/-! ## Attributes -/

/-- An attribute whose value is not put together yet. -/
structure WrittenAttribute where
  written : QualifiedName
  name : Name
  value : List Piece

/-- Whether the prefix of an attribute is not declared. -/
def WrittenAttribute.isUndeclared (a : WrittenAttribute) : Bool :=
  a.written.label.isSome && a.name.space.isNone

/-- The values that say how white space is handled. -/
def spaceHandlings : List (List Piece) :=
  ["default".toList.map .char, "preserve".toList.map .char]

/-- Takes the attributes of a tag apart into declarations, of which the bindings are collected, and
others. -/
def takeAttributes (around : Surroundings) :
    List Binding → List DraftAttribute → Reading (List Binding × List (QualifiedName × List Piece))
  | bindings, [] => pure (bindings, [])
  | bindings, a :: attributes => do
    let q ← qualify a.name
    match q.declared? with
    | some label => do
      let uri ← expandPieces around.declarations
        (expandEntity around.declarations around.levels) a.value
      let bindings ← match ← bindingOf label uri with
        | some binding => declare bindings binding
        | none => pure bindings
      takeAttributes around bindings attributes
    | none => do
      checkValue around.declarations around.levels a.value
      if q = ⟨some "xml", "space"⟩ ∧ a.value ∉ spaceHandlings then note .spaceHandling
      let (bindings, others) ← takeAttributes around bindings attributes
      pure (bindings, (q, a.value) :: others)

/-- How many attributes repeat the expanded name of an earlier one with another prefix; `seen`
holds the earlier ones.  Those whose prefix is not declared do not count. -/
def countRepeated (seen : List WrittenAttribute) : List WrittenAttribute → Except Fault Nat
  | [] => .ok 0
  | a :: attributes =>
    if a.isUndeclared then countRepeated seen attributes
    else
      match seen.find? (·.name = a.name) with
      | none => countRepeated (a :: seen) attributes
      | some first =>
        if first.written.label = a.written.label then .error .duplicate
        else (countRepeated seen attributes).map (· + 1)

/-- Whether nothing occurs twice. -/
def allDifferent {α : Type} [DecidableEq α] : List α → Bool
  | [] => true
  | a :: rest => a ∉ rest && allDifferent rest

/-- Notes the attributes that repeat an expanded name. -/
def noteRepeated (attributes : List WrittenAttribute) : Reading Unit := do
  let repeated ← countRepeated [] attributes
  (List.replicate repeated Problem.repeatedAttribute).forM note
  let labelled := (attributes.map (·.written)).filter (·.label.isSome)
  if 1 < repeated ∧ !allDifferent labelled then throw .duplicate

/-- The name of identifiers in every document. -/
def identifierName : Name := ⟨some markupSpace, "id"⟩

/-- Whether a value may be an identifier: a name between blanks. -/
def isIdentifier (s : List Char) : Bool :=
  isLocalName ((skipSpace (skipSpace s).reverse).reverse)

/-- Registers an identifier and notes what is wrong with it. -/
def noteIdentifier (value : List Char) : Reading Unit := do
  if !isIdentifier value then note .identifier
  let id := String.ofList value
  if id ≠ "" then
    if id ∈ (← get).identifiers then note .identifier
    else modify fun s => { s with identifiers := id :: s.identifiers }

/-- Puts the value of an attribute together. -/
def finishAttribute (d : Declarations) (a : WrittenAttribute) : Reading Attribute := do
  let value := valueText d (← get).uses (d.entities.length + 1) a.value
  if a.name = identifierName ∧ a.value.all (·.entity?.isNone) then noteIdentifier value
  pure ⟨a.name, String.ofList value⟩

/-- An attribute with the value of the first one of its name. -/
def Attribute.firstValue (attributes : List Attribute) (a : Attribute) : Attribute :=
  ⟨a.name, ((attributes.find? (·.name = a.name)).map (·.value)).getD a.value⟩

/-- An attribute with its name as it is read back. -/
def Attribute.reread (a : Attribute) : Attribute := ⟨a.name.reread, a.value⟩

/-- The attributes of an element.  In the text of an entity they are not put together. -/
def finishAttributes (around : Surroundings) (written : List WrittenAttribute) :
    Reading (List Attribute) := do
  if around.inEntity then pure []
  else do
    let attributes ← written.mapM (finishAttribute around.declarations)
    pure (attributes.map fun a => (a.firstValue attributes).reread)

/-! ## References between tags -/

/-- Meets a reference to an entity between tags, inside a number of elements. -/
def refer (around : Surroundings) (depth : Nat) (name : String) : Reading Unit := do
  match ← around.declarations.lookUp false name with
  | none => pure ()
  | some (.internal text) => do
    let before ← get
    if (before.uses.lookup name).isNone then do
      set { before with expanded := 0 }
      around.readText depth text
      recordSize name ((← get).expanded + textSize text)
      settle name .content
      modify fun s => { s with expanded := before.expanded }
    charge (← sizeOf name)
  | some _ => charge 0

/-! ## Nodes -/

mutual

/-- The node of a draft in a scope, inside a number of elements. -/
def Draft.resolve (around : Surroundings) (scope : Scope) (depth : Nat) : Draft → Reading Node
  | .element name attributes children => do
    let q ← qualify name
    let (bindings, others) ← takeAttributes around [] attributes
    let inner := scope.enter bindings
    let written ← others.mapM fun (q, value) => do
      pure (⟨q, ← expandName inner none q, value⟩ : WrittenAttribute)
    noteRepeated written
    let name ← expandName inner (defaultSpace inner) q
    let attributes ← finishAttributes around written
    let children ← resolveAll around inner (depth + 1) children
    pure (.element name.reread bindings attributes children)
  | .text s => pure (.text (String.ofList s))
  | .comment s => pure (.comment (String.ofList s))
  | .instruction target data => do
    (targetProblems target).forM note
    pure (.instruction (String.ofList target) (String.ofList data))
  | .reference name => do
    refer around depth name
    pure (.reference name)

/-- The nodes of some drafts in a scope. -/
def resolveAll (around : Surroundings) (scope : Scope) (depth : Nat) :
    List Draft → Reading (List Node)
  | [] => pure []
  | draft :: drafts => do
    let node ← Draft.resolve around scope depth draft
    let nodes ← resolveAll around scope depth drafts
    pure (node :: nodes)

end

/-- Reads the text of an entity inside a number of elements; the entity counts like one of them.
The first number is how many such texts may be nested. -/
def readEntityContent (d : Declarations) : Nat → Nat → List Char → Reading Unit
  | 0, _, _ => throw .recursion
  | levels + 1, depth, text => do
    let (drafts, rest) ← readNodes (text.length + 1) (depth + 1) (normalized text)
    if !rest.isEmpty then throw .markup
    let _ ← resolveAll ⟨d, levels, true, readEntityContent d levels⟩ [] (depth + 1) drafts

/-- What stands around the root of a document. -/
def Surroundings.ofDocument (d : Declarations) : Surroundings :=
  ⟨d, maxEntityDepth, false, readEntityContent d maxEntityDepth⟩

theorem declare_nodup {bindings more : List Binding} {binding : Binding}
    (hn : (bindings.map (·.label)).Nodup) (h : declare bindings binding = .ok more) :
    (more.map (·.label)).Nodup := by
  unfold declare at h
  split at h
  · exact nomatch h
  · next hb =>
    obtain rfl : bindings ++ [binding] = more := Except.ok.inj h
    rw [List.map_append, List.nodup_append]
    refine ⟨hn, by simp, fun a ha b hb' => ?_⟩
    obtain ⟨c, hc, rfl⟩ := List.mem_map.1 ha
    obtain rfl : b = binding.label := by simpa using hb'
    exact fun he => hb (List.any_eq_true.2 ⟨c, hc, by simpa using he⟩)

@[simp] theorem Attribute.name_firstValue (attributes : List Attribute) (a : Attribute) :
    (a.firstValue attributes).name = a.name := rfl

end SvgBuilder.Markup
