import SvgBuilder.Component.Assembly
import SvgBuilder.Proofs.Builder.Log
import SvgBuilder.Proofs.Transform.Strictness

/-!
# Notes about a document

What is noted while a document becomes a module is noted of its parts: every step, and what is wrong
with a call in a transform list, with a segment of a style, and with the view box.  So what holds of
those notes holds of all.  Only one thing is an error: a call that is not supported.  Everything
else is a step or a recoverable issue, and what a warning begins with says which part it is about.

## Main results

* `all_assemble`: a condition that holds of the notes for the parts holds of those for the module.
* `allAboutCalls_assemble`: every error of a module is about a call that is not supported.
* `boxWarning_mem_assemble_iff`: the warning about the view box is noted where the view box is read.
* `warning_of_mem_assemble`: what the other warnings begin with.
* `allWhole_assemble`: all notes for a module are texts of characters.
-/

namespace SvgBuilder

open SvgBuilder.Markup SvgBuilder.Text

/-- The warning about a missing view box. -/
def boxWarning : Note := ⟨.warning, "No viewBox attribute found, this may affect scaling"⟩

/-- Whether a condition holds of the notes that elements are read with: of every step, and of all
that is noted of a call and of a segment of a style. -/
structure Note.IsCommonInside (P : Note → Prop) : Prop where
  step : ∀ text : String, P ⟨.info, text⟩
  number : ∀ token, P ⟨.warning,
    ("Invalid transform argument '" ++ String.ofList token ++ "', using 0" : String)⟩
  gap : P ⟨.warning, "Missing transform argument, using 0"⟩
  unsupported : ∀ strict call, call.isUnsupported = true → P (Transform.unsupportedNote strict call)
  segment : ∀ segment, P ⟨.warning, ("Invalid style declaration: " ++ String.ofList segment : String)⟩

/-- Whether a condition holds of the notes that the parts of a document are read with: of those for
elements, and of the warning about a missing view box. -/
structure Note.IsCommon (P : Note → Prop) : Prop extends Note.IsCommonInside P where
  box : P boxWarning

variable {P : Note → Prop} (h : Note.IsCommonInside P)

include h

theorem all_info (text : String) : (Noted.info text).All P := Noted.All.note (h.step text)

/-! ## Attributes -/

namespace Transform

theorem all_readNumber (token : List Char) : (readNumber token).All P := by
  unfold readNumber
  split
  · exact Noted.All.pure _
  · exact Noted.All.bind (Noted.All.note (h.number token)) fun _ => Noted.All.pure _

theorem all_readPiece (piece : List Char) : (readPiece piece).All P := by
  unfold readPiece
  split
  · exact Noted.All.bind (Noted.All.note h.gap) fun _ => Noted.All.pure _
  · exact Noted.All.mapM (all_readNumber h) _

theorem all_ofCall (strict : Bool) (call : Call) : (ofCall strict call).All P := by
  have hArguments : (readArguments call.arguments).All P :=
    (Noted.All.mapM (all_readPiece h) _).bind fun _ => Noted.All.pure _
  cases hCall : call.transform? with
  | some t =>
    rw [ofCall_of_supported hCall]
    exact fun n hn => hArguments n hn
  | none =>
    have hUnsupported : call.isUnsupported = true := by rw [Call.isUnsupported, hCall]; rfl
    rw [ofCall_of_unsupported hUnsupported]
    exact List.forall_mem_append.2 ⟨hArguments,
      List.forall_mem_singleton.2 (h.unsupported strict call hUnsupported)⟩

theorem all_readList (strict : Bool) (s : String) : (readList strict s).All P :=
  (Noted.All.mapM (all_ofCall h strict) _).bind fun _ => Noted.All.pure _

end Transform

theorem Style.all_readSegment (segment : List Char) : (readSegment segment).All P := by
  unfold readSegment
  split
  · exact Noted.All.pure _
  · split
    · exact Noted.All.pure _
    · exact Noted.All.bind (Noted.All.note (h.segment segment)) fun _ => Noted.All.pure _

theorem Style.all_convert (s : String) : (Style.convert s).All P := by
  have hRead : (Style.read s).All P :=
    (Noted.All.mapM (fun segment => all_readSegment h (trim segment)) _).bind
      fun _ => Noted.All.pure _
  exact hRead.bind fun _ => Noted.All.pure _

theorem all_apply (strict : Bool) (name value : String) (rule : AttributeRule) :
    (rule.apply strict name value).All P := by
  cases rule with
  | style => exact Style.all_convert h value
  | fillReference => exact (all_info h _).bind fun _ => Noted.All.pure _
  | geometric =>
    refine (all_info h _).bind fun _ => ?_
    split
    · exact (Transform.all_readList h strict value).bind fun _ => Noted.All.pure _
    · exact Noted.All.pure _
  | _ => exact Noted.All.pure _

theorem all_convertAttributes (strict : Bool) (attributes : List (String × String)) :
    (convertAttributes strict attributes).All P :=
  Noted.All.mapM (fun _ => (all_info h _).bind fun _ => all_apply h _ _ _ _) _

/-! ## Elements -/

theorem all_convertNamespaces (own : List Binding) (outer : Scope) :
    (convertNamespaces own outer).All P :=
  Noted.All.mapM (fun _ => (all_info h _).bind fun _ => Noted.All.pure _) _

theorem all_ownItems (strict : Bool) (skipped : List String) (outer : Scope) (e : Element) :
    (ownItems strict skipped outer e).All P := by
  refine (all_convertNamespaces h _ _).bind fun _ => ?_
  exact (all_convertAttributes h _ _).bind fun _ => Noted.All.pure _

omit h

mutual

theorem all_convertNode (h : Note.IsCommonInside P) (strict : Bool) (outer : Scope) : (node : Node) →
    (convertNode strict outer node).All P
  | .element name bindings attributes children => by
    have hChildren := all_convertChildren h strict (Scope.enter bindings outer) children
    rw [convertNode]
    refine (all_info h _).bind fun _ => hChildren.bind fun _ => ?_
    exact (all_ownItems h _ _ _ _).bind fun _ => Noted.All.pure _
  | .comment _ => by
    rw [convertNode]
    exact (all_info h _).bind fun _ => Noted.All.pure _
  | .instruction _ _ => by
    rw [convertNode]
    exact (all_info h _).bind fun _ => Noted.All.pure _
  | .text _ => by
    rw [convertNode]
    exact Noted.All.pure _
  | .reference _ => by
    rw [convertNode]
    exact Noted.All.pure _

theorem all_convertChildren (h : Note.IsCommonInside P) (strict : Bool) (scope : Scope) :
    (nodes : List Node) → (convertChildren strict scope nodes).All P
  | [] => by
    rw [convertChildren_nil]
    exact Noted.All.pure _
  | node :: nodes => by
    have hNode := all_convertNode h strict scope node
    have hNodes := all_convertChildren h strict scope nodes
    rw [convertChildren_cons]
    exact hNode.bind fun _ => hNodes.bind fun _ => Noted.All.pure _

end

theorem all_convertContent (h : Note.IsCommonInside P) (strict : Bool) (omission : Omission)
    (outer : Scope) (e : Element) : (convertContent strict omission outer e).All P := by
  refine (all_info h _).bind fun _ => ?_
  refine (all_convertChildren h _ _ _).bind fun _ => ?_
  exact (all_ownItems h _ _ _ _).bind fun _ => Noted.All.pure _

/-! ## Modules -/

theorem all_viewBox (h : Note.IsCommon P) (root : Element) : (viewBox root).All P := by
  unfold viewBox
  split
  · exact Noted.All.pure _
  · split
    · exact (all_info h.toIsCommonInside _).bind fun _ => Noted.All.pure _
    · exact Noted.All.bind (Noted.All.note h.box) fun _ => Noted.All.pure _

/-- The notes for a module are those for its view box, for its definitions and for its root. -/
theorem notes_assemble (settings : Settings) (moduleName sourceName : String) (root : Element) :
    (assemble settings moduleName sourceName root).notes =
      (viewBox root).notes ++ ((definitions settings.strictTransforms root).notes ++
        (convertContent settings.strictTransforms rootOmission [] root).notes) := by
  simp only [assemble, rootItems, Noted.notes_bind, Noted.notes_pure, List.append_nil]

/-- What holds of the notes for the parts of a document holds of those for its module. -/
theorem all_assemble (h : Note.IsCommon P) (settings : Settings) (moduleName sourceName : String)
    (root : Element) : (assemble settings moduleName sourceName root).All P := by
  have hInside := h.toIsCommonInside
  intro n hn
  rw [notes_assemble, List.mem_append, List.mem_append] at hn
  rcases hn with hn | hn | hn
  · exact all_viewBox h root n hn
  · exact all_convertChildren hInside _ _ _ n hn
  · exact all_convertContent hInside _ _ _ _ n hn

/-! ## Errors -/

/-- Whether a note, if it is an error, is about a call that is not supported. -/
def Note.IsAboutCalls (n : Note) : Prop :=
  n.level = .error → ∃ call : Call, call.isUnsupported = true ∧ n.text = call.unsupportedError

theorem Note.isAboutCalls_of_ne {level : Level} (h : level ≠ .error) (text : CodeText) :
    Note.IsAboutCalls ⟨level, text⟩ := fun hError => absurd hError h

theorem Note.isCommon_isAboutCalls : Note.IsCommon Note.IsAboutCalls where
  step _ := Note.isAboutCalls_of_ne (by decide) _
  number _ := Note.isAboutCalls_of_ne (by decide) _
  gap := Note.isAboutCalls_of_ne (by decide) _
  unsupported strict call hUnsupported := by
    cases strict with
    | true => exact fun _ => ⟨call, hUnsupported, Note.text_mk _ _⟩
    | false => exact Note.isAboutCalls_of_ne (by decide) _
  segment _ := Note.isAboutCalls_of_ne (by decide) _
  box := Note.isAboutCalls_of_ne (by decide) _

/-- Every error that is noted while a module is assembled is about a call that is not supported. -/
theorem allAboutCalls_assemble (settings : Settings) (moduleName sourceName : String)
    (root : Element) :
    (assemble settings moduleName sourceName root).All Note.IsAboutCalls :=
  all_assemble Note.isCommon_isAboutCalls settings moduleName sourceName root

/-! ## Warnings -/

/-- What the warnings about elements begin with. -/
def warningOpenings : List String :=
  ["Invalid transform argument '", "Missing transform argument, using 0",
    "Unsupported transform function: ", "Invalid style declaration: "]

/-- Whether a note, if it is a warning, begins as those about elements do. -/
def Note.IsAboutElements (n : Note) : Prop :=
  n.level = .warning → ∃ opening ∈ warningOpenings, ∃ rest, n.text = opening ++ rest

theorem Note.isAboutElements_of_ne {level : Level} (h : level ≠ .warning) (text : String) :
    Note.IsAboutElements ⟨level, text⟩ := fun hWarning => absurd hWarning h

theorem Note.isAboutElements_append {opening : String} (h : opening ∈ warningOpenings)
    (rest : String) : Note.IsAboutElements ⟨.warning, (opening ++ rest : String)⟩ :=
  fun _ => ⟨opening, h, rest, Note.text_mk _ _⟩

theorem Note.isCommonInside_isAboutElements : Note.IsCommonInside Note.IsAboutElements where
  step := Note.isAboutElements_of_ne (by decide)
  number token := by
    rw [String.append_assoc]
    exact Note.isAboutElements_append (by decide) _
  gap := by
    have hText := Note.isAboutElements_append
      (by decide : "Missing transform argument, using 0" ∈ warningOpenings) ""
    rwa [String.append_empty] at hText
  unsupported strict call _ := by
    cases strict with
    | true => exact Note.isAboutElements_of_ne (by decide) _
    | false =>
      have hText : call.substitutionWarning = "Unsupported transform function: " ++
          (String.ofList call.text ++ ", substituting translate(0)") := String.append_assoc ..
      rw [Transform.unsupportedNote, if_neg Bool.false_ne_true, hText]
      exact Note.isAboutElements_append (by decide) _
  segment _ := Note.isAboutElements_append (by decide) _

theorem not_isAboutElements_boxWarning : ¬boxWarning.IsAboutElements := by
  intro h
  obtain ⟨opening, hOpening, rest, hText⟩ := h rfl
  have hNone : ∀ opening ∈ warningOpenings, beginsWith opening boxWarning.text = false := by
    decide +kernel
  rw [hText] at hNone
  exact nomatch (beginsWith_append opening rest).symm.trans (hNone opening hOpening)

/-- The warning about the view box is noted where the view box is read, and nowhere else. -/
theorem boxWarning_mem_assemble_iff (settings : Settings) (moduleName sourceName : String)
    (root : Element) :
    boxWarning ∈ (assemble settings moduleName sourceName root).notes ↔
      boxWarning ∈ (viewBox root).notes := by
  have hInside := Note.isCommonInside_isAboutElements
  have hDefinitions : boxWarning ∉ (definitions settings.strictTransforms root).notes :=
    fun h => not_isAboutElements_boxWarning (all_convertChildren hInside _ _ _ _ h)
  have hContent : boxWarning ∉
      (convertContent settings.strictTransforms rootOmission [] root).notes :=
    fun h => not_isAboutElements_boxWarning (all_convertContent hInside _ _ _ _ _ h)
  rw [notes_assemble, List.mem_append, List.mem_append]
  simp only [hDefinitions, hContent, or_false]

/-- What the other warnings for a module begin with. -/
theorem warning_of_mem_assemble {settings : Settings} {moduleName sourceName : String}
    {root : Element} {n : Note} (h : n ∈ (assemble settings moduleName sourceName root).notes)
    (hLevel : n.level = .warning) :
    n = boxWarning ∨ ∃ opening ∈ warningOpenings, ∃ rest, n.text = opening ++ rest := by
  have hInside := Note.isCommonInside_isAboutElements
  have hCommon : Note.IsCommon fun n => n = boxWarning ∨ n.IsAboutElements :=
    { step := fun text => .inr (hInside.step text)
      number := fun token => .inr (hInside.number token)
      gap := .inr hInside.gap
      unsupported := fun strict call h => .inr (hInside.unsupported strict call h)
      segment := fun segment => .inr (hInside.segment segment)
      box := .inl rfl }
  exact (all_assemble hCommon settings moduleName sourceName root n h).imp id fun h => h hLevel

/-! ## Characters -/

/-- Whether a note is a text of characters. -/
def Note.IsWhole (n : Note) : Prop := n.spelling.isWhole = true

theorem Note.isWhole_mk (level : Level) (text : String) : Note.IsWhole ⟨level, text⟩ :=
  CodeText.isWhole_ofString text

/-- All that is noted while a module is assembled is of characters. -/
theorem allWhole_assemble (settings : Settings) (moduleName sourceName : String) (root : Element) :
    (assemble settings moduleName sourceName root).All Note.IsWhole := by
  have hCommon : Note.IsCommon Note.IsWhole :=
    { step := Note.isWhole_mk .info
      number := fun _ => Note.isWhole_mk _ _
      gap := Note.isWhole_mk _ _
      unsupported := fun strict call _ => by cases strict <;> exact Note.isWhole_mk _ _
      segment := fun _ => Note.isWhole_mk _ _
      box := Note.isWhole_mk _ _ }
  exact all_assemble hCommon settings moduleName sourceName root

end SvgBuilder
