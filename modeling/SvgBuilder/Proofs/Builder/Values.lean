import Mathlib.Data.List.Forall2
import SvgBuilder.Proofs.Builder.ReadBack
import SvgBuilder.Proofs.Component.Color

/-!
# The values in modules

A value of a document becomes a literal, and every call around it and the object of the colors
indent its text once more.  So it depends on the value alone whether it is read back: a value
without a raw line end is, at any depth, and any other comes back longer.

## Main results

* `indented_nodeValues`, `indented_rootValues`: the literals of a document and its values.
* `values_kept_iff`: the values of a module are kept exactly if none of them has a raw line end.
-/

namespace SvgBuilder

open SvgBuilder.Markup SvgBuilder.Text SvgBuilder.Source

/-! ## Values that are indented -/

/-- Whether no line ends raw in a value. -/
def IsOneLine (value : List Char) : Prop := ∀ c ∈ value, isRawBreak c = false

instance (value : List Char) : Decidable (IsOneLine value) := List.decidableBAll _ _

/-- What is read for a value from a text that has been indented at least once. -/
def Indented (value read : List Char) : Prop :=
  IsOneLine value ∧ read = value ∨ ¬IsOneLine value ∧ value.length < read.length

/-- What is read for a value from a text that may have been indented. -/
def MaybeIndented (value read : List Char) : Prop := read = value ∨ Indented value read

theorem exists_break_of_not_isOneLine {value : List Char} (h : ¬IsOneLine value) :
    ∃ c ∈ value, isRawBreak c = true := by
  simpa [IsOneLine] using h

theorem MaybeIndented.reindented {margin value read : List Char} (hm : margin ≠ [])
    (h : MaybeIndented value read) : Indented value (reindented margin read) := by
  by_cases hLine : IsOneLine value
  · have hRead : read = value := h.elim id fun h => (h.resolve_right fun h => h.1 hLine).2
    exact .inl ⟨hLine, hRead ▸ reindented_of_no_break hLine margin⟩
  · refine .inr ⟨hLine, ?_⟩
    rcases h with rfl | h
    · exact length_lt_reindented hm (exists_break_of_not_isOneLine hLine)
    · have hLonger := (h.resolve_left fun h => hLine h.1).2
      exact Nat.lt_of_lt_of_le hLonger (length_le_reindented margin read)

theorem forall₂_reindented {margin : List Char} (hm : margin ≠ [])
    {values read : List (List Char)} (h : List.Forall₂ MaybeIndented values read) :
    List.Forall₂ Indented values (read.map (reindented margin)) := by
  rw [List.forall₂_map_right_iff]
  exact h.imp fun _ _ h => h.reindented hm

theorem forall₂_maybeIndented_self (values : List (List Char)) :
    List.Forall₂ MaybeIndented values values :=
  List.forall₂_same.2 fun _ _ => .inl rfl

/-- Values are all read back exactly if no line ends raw in any of them. -/
theorem eq_iff_isOneLine {values read : List (List Char)} (h : List.Forall₂ Indented values read) :
    read = values ↔ ∀ value ∈ values, IsOneLine value := by
  induction h with
  | nil => simp
  | cons hFirst _ ih =>
      rw [List.cons.injEq, ih, List.forall_mem_cons]
      apply and_congr_left
      intro _
      constructor
      · intro hRead
        exact (hFirst.resolve_right fun hLonger => by simp [hRead] at hLonger).1
      · intro hLine
        exact (hFirst.resolve_right fun hLonger => hLonger.1 hLine).2

/-! ## The values of a document -/

/-- The values of the declarations of an inline style. -/
def entryValues (entries : List (String × String)) : List (List Char) :=
  entries.flatMap fun entry => [entry.1.toList, entry.2.toList]

/-- The values that the statement of an attribute is made from. -/
def attributeValues (strict : Bool) (entry : String × String) : List (List Char) :=
  match AttributeRule.find entry.1 entry.2 with
  | .style => entryValues (Style.read entry.2).value
  | .namespaced => [entry.1.toList, entry.2.toList]
  | .geometric =>
    if entry.1 ∈ transformNames then
      [(Transform.listText (Transform.readList strict entry.2).value).toList]
    else [entry.2.toList]
  | _ => [entry.2.toList]

/-- A text that becomes a literal unless it is empty. -/
def textValues (s : String) : List (List Char) := if s = "" then [] else [s.toList]

/-- The values of an element itself. -/
def ownValues (strict : Bool) (skipped : List String) (outer : Scope) (e : Element) :
    List (List Char) :=
  (introduced e.bindings outer).map (·.uri.toList) ++
    (attributeMap (Scope.enter e.bindings outer) skipped e.attributes).flatMap
      (attributeValues strict) ++
    textValues e.trimmedText

mutual

/-- The values of the elements of a subtree, in document order. -/
def nodeValues (strict : Bool) (outer : Scope) : Node → List (List Char)
  | .element name bindings attributes children =>
    ownValues strict [] outer ⟨name, bindings, attributes, children⟩ ++
      nodesValues strict (Scope.enter bindings outer) children
  | .text _ => []
  | .comment _ => []
  | .instruction _ _ => []
  | .reference _ => []

/-- The values of the elements of some subtrees. -/
def nodesValues (strict : Bool) (scope : Scope) : List Node → List (List Char)
  | [] => []
  | node :: nodes => nodeValues strict scope node ++ nodesValues strict scope nodes

end

/-- The values of the call of the root in its module. -/
def rootValues (settings : Settings) (root : Element) : List (List Char) :=
  let strict := settings.strictTransforms
  let scope := Scope.enter root.bindings []
  textValues (viewBox root).value ++
    nodesValues strict scope (root.children.filter isDefinitions) ++
    (ownValues strict parameterAttributes [] root ++
      nodesValues strict scope (root.children.filter rootOmission.keeps))

/-- The values of the constants of a module. -/
def colorValues (settings : Settings) (root : Element) : List (List Char) :=
  if settings.colorConstants then (colors root).map (·.2.toList) else []

/-! ## The literals of a document -/

/-- The values in a member. -/
def memberValues : Member → List (List Char)
  | .named _ => []
  | .attribute name => [name.toList]

/-- The values in an assigned value. -/
def assignedValues : Assigned → List (List Char)
  | .text value => [value.toList]
  | .map entries => entryValues entries

theorem partLiterals_member (member : Member) :
    partLiterals member.parts = memberValues member := by
  match member with
  | .named _ => rfl
  | .attribute _ => rfl

theorem partLiterals_assigned (value : Assigned) :
    partLiterals value.parts = assignedValues value := by
  cases value with
  | text value => rfl
  | map entries =>
      have hGroup (arguments : List Argument) :
          partLiterals [.word "Map".toList, .group arguments] = listLiterals arguments := by
        simp [partLiterals, Part.literals]
      rw [Assigned.parts, hGroup, assignedValues, entryValues]
      induction entries with
      | nil => rfl
      | cons entry entries ih =>
          rw [List.map_cons, listLiterals, ih, List.flatMap_cons]
          rfl

theorem partLiterals_statement (statement : Statement) :
    partLiterals statement.argument =
      memberValues statement.member ++ assignedValues statement.value := by
  rw [Statement.argument, partLiterals_append, partLiterals_member, partLiterals,
    partLiterals_assigned]
  rfl

theorem partLiterals_attributeArgument (strict : Bool) (entry : String × String) :
    partLiterals (attributeArgument strict entry) = attributeValues strict entry := by
  rw [attributeArgument, convertAttribute, Noted.value_bind, partLiterals_statement,
    attributeValues]
  cases AttributeRule.find entry.1 entry.2 with
  | geometric =>
      rw [AttributeRule.apply, Noted.value_bind]
      dsimp only
      split
      · rfl
      · rfl
  | _ => rfl

theorem listLiterals_textArguments (s : String) :
    listLiterals (textArguments s) = textValues s := by
  unfold textArguments textValues
  split <;> rfl

theorem listLiterals_ownArguments (strict : Bool) (skipped : List String) (outer : Scope)
    (e : Element) :
    listLiterals (ownArguments strict skipped outer e) = ownValues strict skipped outer e := by
  have hFlat {α : Type} (f : α → Argument) (as : List α) :
      listLiterals (as.map f) = as.flatMap fun a => partLiterals (f a) := by
    induction as with
    | nil => rfl
    | cons a as ih => rw [List.map_cons, listLiterals, ih, List.flatMap_cons]
  have hBindings : ((introduced e.bindings outer).flatMap fun b =>
      partLiterals (bindingStatement b).argument) =
        (introduced e.bindings outer).map (·.uri.toList) := by
    rw [← List.flatMap_singleton' ((introduced e.bindings outer).map _), List.flatMap_map]
    rfl
  rw [ownArguments, ownValues, listLiterals_append, listLiterals_append, hFlat, hFlat, hBindings,
    listLiterals_textArguments]
  simp only [partLiterals_attributeArgument]

theorem partLiterals_callArgument (label margin : String) (arguments : List Argument) :
    partLiterals (callArgument label margin arguments) =
      (listLiterals arguments).map (reindented margin.toList) := by
  simp [callArgument, partLiterals, Part.literals, listLiterals_mapArguments]

mutual

theorem indented_nodeValues (strict : Bool) (outer : Scope) : (node : Node) →
    List.Forall₂ Indented (nodeValues strict outer node)
      (listLiterals (nodeArgument? strict outer node).toList)
  | .element name bindings attributes children => by
      have hChildren := indented_nodesValues strict (Scope.enter bindings outer) children
      rw [nodeValues, nodeArgument?, Option.toList_some, listLiterals, listLiterals,
        List.append_nil, partLiterals_callArgument, listLiterals_append,
        listLiterals_ownArguments]
      refine forall₂_reindented (by decide) (List.rel_append (forall₂_maybeIndented_self _) ?_)
      exact hChildren.imp fun _ _ h => .inr h
  | .text _ => by rw [nodeValues, nodeArgument?]; exact .nil
  | .comment _ => by rw [nodeValues, nodeArgument?]; exact .nil
  | .instruction _ _ => by rw [nodeValues, nodeArgument?]; exact .nil
  | .reference _ => by rw [nodeValues, nodeArgument?]; exact .nil

theorem indented_nodesValues (strict : Bool) (scope : Scope) : (nodes : List Node) →
    List.Forall₂ Indented (nodesValues strict scope nodes)
      (listLiterals (nodeArguments strict scope nodes))
  | [] => by rw [nodesValues, nodeArguments]; exact .nil
  | node :: nodes => by
      rw [nodesValues, nodeArguments, listLiterals_append]
      exact List.rel_append (indented_nodeValues strict scope node)
        (indented_nodesValues strict scope nodes)

end

theorem listLiterals_parameterArguments (box : String) :
    listLiterals (parameterArguments box) = textValues box := by
  unfold parameterArguments textValues
  split <;> rfl

/-- The literals of the call of the root are the values of the document, indented. -/
theorem indented_rootValues (settings : Settings) (root : Element) :
    List.Forall₂ Indented (rootValues settings root)
      (partLiterals (callArgument "svg" argumentMargin (rootArguments settings root))) := by
  have hNodes (nodes : List Node) := (indented_nodesValues settings.strictTransforms
    (Scope.enter root.bindings []) nodes).imp fun _ _ h => (.inr h : MaybeIndented _ _)
  rw [partLiterals_callArgument, rootArguments, rootValues]
  simp only [listLiterals_append, listLiterals_parameterArguments, listLiterals_ownArguments]
  refine forall₂_reindented (by decide) ?_
  exact List.rel_append (List.rel_append (forall₂_maybeIndented_self _) (hNodes _))
    (List.rel_append (forall₂_maybeIndented_self _) (hNodes _))

/-- The literals behind the call of the root are the colors, indented. -/
theorem indented_colorValues (settings : Settings) (root : Element) :
    List.Forall₂ Indented (colorValues settings root)
      (literalsOf (if settings.colorConstants then
        (objectTokens (colors root)).map (Token.reindent memberMargin.toList) else [])) := by
  unfold colorValues
  split
  · rw [literalsOf_map_reindent, literalsOf_objectTokens]
    exact forall₂_reindented (by decide) (forall₂_maybeIndented_self _)
  · exact .nil

/-- The values of a document are read back from its module exactly if no line ends raw in any of
them. -/
theorem values_kept_iff {bytes : List UInt8} {root : Element} (h : readDocument bytes = .ok root)
    (hu : ∀ e ∈ root.elements, e.IsUnbroken) (settings : Settings)
    (moduleName sourceName : String) :
    ∃ call inCall inColors,
      (assemble settings moduleName sourceName root).value =
        opening settings moduleName sourceName root ++ call ++ closing settings root ∧
      tokens? call.toList = some inCall ∧
      tokens? (closing settings root).toList = some inColors ∧
      (literalsOf inCall = rootValues settings root ↔
        ∀ value ∈ rootValues settings root, IsOneLine value) ∧
      (literalsOf inColors = colorValues settings root ↔
        ∀ value ∈ colorValues settings root, IsOneLine value) := by
  have hNamed := named_of_readDocument h
  have hRead := read?_rootCall settings fun e he =>
    isReadableElement_of_isUnbroken (hNamed e he) (hu e he)
  obtain ⟨inCall, hInCall, hArguments⟩ := Option.bind_eq_some_iff.1 hRead
  refine ⟨_, inCall, _, value_assemble settings moduleName sourceName root, hInCall,
    tokens?_closing settings root, ?_, eq_iff_isOneLine (indented_colorValues settings root)⟩
  rw [← listLiterals_of_arguments? hArguments, listLiterals, listLiterals, List.append_nil]
  exact eq_iff_isOneLine (indented_rootValues settings root)

/-- A document with two values, one of which has a second line. -/
theorem values_kept_document : ∃ root,
    readString "<a x='1'><b y='2&#x2028;3'/></a>" = .ok root ∧
    (∀ e ∈ root.elements, e.IsUnbroken) ∧
    rootValues Settings.default root = [['1'], ['2', Char.ofNat 0x2028, '3']] ∧
    ∃ call inCall,
      (assemble Settings.default "A" "a.svg" root).value =
        opening Settings.default "A" "a.svg" root ++ call ++ closing Settings.default root ∧
      tokens? call.toList = some inCall ∧ literalsOf inCall ≠ rootValues Settings.default root := by
  obtain ⟨root, hRoot, hAll⟩ := exists_of_readsWith (by decide +kernel :
    readsWith (fun root => decide ((∀ e ∈ root.elements, e.IsUnbroken) ∧
      rootValues Settings.default root = [['1'], ['2', Char.ofNat 0x2028, '3']]))
      "<a x='1'><b y='2&#x2028;3'/></a>" = true)
  obtain ⟨hUnbroken, hValues⟩ := of_decide_eq_true hAll
  obtain ⟨call, inCall, -, hText, hCall, -, hKept, -⟩ :=
    values_kept_iff hRoot hUnbroken Settings.default "A" "a.svg"
  refine ⟨root, hRoot, hUnbroken, hValues, call, inCall, hText, hCall, fun hSame => ?_⟩
  have hLines := hKept.1 hSame
  rw [hValues] at hLines
  exact absurd hLines (by decide)

end SvgBuilder
