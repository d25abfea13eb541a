import SvgBuilder.Proofs.Source.Indentation

/-!
# Arguments of generated calls

The tokens of a text nest at the parentheses.  An argument is a list of parts: words, literals and
groups, and a group is what stands between two parentheses, cut into arguments at the commas of its
own level.  One comma directly before a closing parenthesis is passed over; any other comma without
an argument before it leaves an empty argument, so that a list that is read without empty arguments
has exactly one comma between any two of them.

## Main results

* `Forms.append`: tokens are nested piece by piece.
* `Lists.group`: tokens that leave a list of arguments become one group between parentheses.
* `Lists.arguments?_eq`: the tokens of a list make up its arguments.
* `listLiterals_of_arguments?`: no literal among the tokens gets lost, and none is moved.
-/

namespace SvgBuilder.Source

/-- A part of an argument. -/
inductive Part where
  | word (text : List Char)
  | literal (value : List Char)
  | group (arguments : List (List Part))

/-- What stands between two commas. -/
abbrev Argument := List Part

/-- A list of arguments that is being read. -/
structure Frame where
  done : List Argument
  current : Argument

namespace Frame

/-- The list that nothing has been read of. -/
def empty : Frame := ⟨[], []⟩

/-- Adds parts to the argument that is being read. -/
def push (frame : Frame) (parts : Argument) : Frame := ⟨frame.done, frame.current ++ parts⟩

/-- Ends an argument at a comma. -/
def next (frame : Frame) : Frame := ⟨frame.done ++ [frame.current], []⟩

/-- The arguments at the end of the list.  Behind a last comma there is none. -/
def arguments (frame : Frame) : List Argument :=
  if frame.current = [] then frame.done else frame.done ++ [frame.current]

end Frame

/-- The list that is being read and those around it. -/
structure Nest where
  top : Frame
  outer : List Frame

namespace Nest

/-- Reads a token.  A closing parenthesis needs an opening one. -/
def step : Nest → Token → Option Nest
  | ⟨top, outer⟩, .word text => some ⟨top.push [.word text], outer⟩
  | ⟨top, outer⟩, .literal value => some ⟨top.push [.literal value], outer⟩
  | ⟨top, outer⟩, .comma => some ⟨top.next, outer⟩
  | ⟨top, outer⟩, .opening => some ⟨.empty, top :: outer⟩
  | ⟨_, []⟩, .closing => none
  | ⟨top, frame :: outer⟩, .closing => some ⟨frame.push [.group top.arguments], outer⟩

/-- Reads tokens. -/
def run (nest : Nest) (tokens : List Token) : Option Nest := tokens.foldlM step nest

end Nest

/-- The arguments that some tokens make up, if every parenthesis is closed. -/
def arguments? (tokens : List Token) : Option (List Argument) :=
  match Nest.run ⟨.empty, []⟩ tokens with
  | some ⟨top, []⟩ => some top.arguments
  | _ => none

/-- Reads a text. -/
def read? (s : String) : Option (List Argument) := (tokens? s.toList).bind arguments?

mutual

/-- A part with its literals changed. -/
def Part.mapLiterals (f : List Char → List Char) : Part → Part
  | .word text => .word text
  | .literal value => .literal (f value)
  | .group arguments => .group (mapArguments f arguments)

/-- A list of arguments with its literals changed. -/
def mapArguments (f : List Char → List Char) : List (List Part) → List (List Part)
  | [] => []
  | argument :: arguments => mapParts f argument :: mapArguments f arguments

/-- An argument with its literals changed. -/
def mapParts (f : List Char → List Char) : List Part → List Part
  | [] => []
  | part :: parts => Part.mapLiterals f part :: mapParts f parts

end

/-- A token with its value changed, if it is a literal. -/
def Token.mapLiteral (f : List Char → List Char) : Token → Token
  | .literal value => .literal (f value)
  | token => token

theorem mapParts_append (f : List Char → List Char) (a b : List Part) :
    mapParts f (a ++ b) = mapParts f a ++ mapParts f b := by
  induction a with
  | nil => simp [mapParts]
  | cons part a ih => simp [mapParts, ih]

theorem mapArguments_append (f : List Char → List Char) (a b : List Argument) :
    mapArguments f (a ++ b) = mapArguments f a ++ mapArguments f b := by
  induction a with
  | nil => simp [mapArguments]
  | cons argument a ih => simp [mapArguments, ih]

theorem reindent_eq_mapLiteral (margin : List Char) :
    Token.reindent margin = Token.mapLiteral (reindented margin) := by
  funext token
  cases token <;> rfl

theorem mapLiteral_comp (f g : List Char → List Char) (token : Token) :
    (token.mapLiteral g).mapLiteral f = token.mapLiteral (f ∘ g) := by
  cases token <;> rfl

mutual

theorem Part.mapLiterals_comp (f g : List Char → List Char) : (part : Part) →
    (part.mapLiterals g).mapLiterals f = part.mapLiterals (f ∘ g)
  | .word _ => rfl
  | .literal _ => rfl
  | .group arguments => by
      simp only [Part.mapLiterals, mapArguments_comp f g arguments]

theorem mapArguments_comp (f g : List Char → List Char) : (arguments : List (List Part)) →
    mapArguments f (mapArguments g arguments) = mapArguments (f ∘ g) arguments
  | [] => rfl
  | argument :: arguments => by
      simp only [mapArguments, mapParts_comp f g argument, mapArguments_comp f g arguments]

theorem mapParts_comp (f g : List Char → List Char) : (parts : List Part) →
    mapParts f (mapParts g parts) = mapParts (f ∘ g) parts
  | [] => rfl
  | part :: parts => by
      simp only [mapParts, Part.mapLiterals_comp f g part, mapParts_comp f g parts]

end

@[simp] theorem mapLiteral_id (token : Token) : token.mapLiteral id = token := by
  cases token <;> rfl

mutual

theorem Part.mapLiterals_id : (part : Part) → part.mapLiterals id = part
  | .word _ => rfl
  | .literal _ => rfl
  | .group arguments => by rw [Part.mapLiterals, mapArguments_id arguments]

theorem mapArguments_id : (arguments : List (List Part)) → mapArguments id arguments = arguments
  | [] => rfl
  | argument :: arguments => by rw [mapArguments, mapParts_id argument, mapArguments_id arguments]

theorem mapParts_id : (parts : List Part) → mapParts id parts = parts
  | [] => rfl
  | part :: parts => by rw [mapParts, Part.mapLiterals_id part, mapParts_id parts]

end

/-! ## Nesting piece by piece -/

namespace Frame

@[simp] theorem push_nil (frame : Frame) : frame.push [] = frame := by
  simp [push]

@[simp] theorem push_push (frame : Frame) (a b : Argument) :
    (frame.push a).push b = frame.push (a ++ b) := by
  simp [push]

theorem arguments_push {frame : Frame} (h : frame.current = []) {parts : Argument}
    (hp : parts ≠ []) : (frame.push parts).arguments = frame.done ++ [parts] := by
  simp [arguments, push, h, hp]

theorem next_push {frame : Frame} (h : frame.current = []) (parts : Argument) :
    (frame.push parts).next = ⟨frame.done ++ [parts], []⟩ := by
  simp [next, push, h]

end Frame

namespace Nest

@[simp] theorem run_nil (nest : Nest) : nest.run [] = some nest := rfl

theorem run_cons {nest next : Nest} {token : Token} (h : nest.step token = some next)
    (tokens : List Token) : nest.run (token :: tokens) = next.run tokens := by
  simp [run, h]

theorem run_append {nest middle : Nest} {a : List Token} (h : nest.run a = some middle)
    (b : List Token) : nest.run (a ++ b) = middle.run b := by
  rw [run, List.foldlM_append]
  show (nest.run a).bind (fun middle => middle.run b) = _
  rw [h]
  rfl

@[simp] theorem run_word (top : Frame) (outer : List Frame) (text : List Char)
    (tokens : List Token) :
    run ⟨top, outer⟩ (.word text :: tokens) = run ⟨top.push [.word text], outer⟩ tokens :=
  run_cons rfl tokens

@[simp] theorem run_literal (top : Frame) (outer : List Frame) (value : List Char)
    (tokens : List Token) :
    run ⟨top, outer⟩ (.literal value :: tokens) = run ⟨top.push [.literal value], outer⟩ tokens :=
  run_cons rfl tokens

@[simp] theorem run_comma (top : Frame) (outer : List Frame) (tokens : List Token) :
    run ⟨top, outer⟩ (.comma :: tokens) = run ⟨top.next, outer⟩ tokens :=
  run_cons rfl tokens

@[simp] theorem run_opening (top : Frame) (outer : List Frame) (tokens : List Token) :
    run ⟨top, outer⟩ (.opening :: tokens) = run ⟨.empty, top :: outer⟩ tokens :=
  run_cons rfl tokens

@[simp] theorem run_closing (top frame : Frame) (outer : List Frame) (tokens : List Token) :
    run ⟨top, frame :: outer⟩ (.closing :: tokens) =
      run ⟨frame.push [.group top.arguments], outer⟩ tokens :=
  run_cons rfl tokens

end Nest

/-- Tokens that add parts to the argument that is being read, wherever they stand. -/
def Forms (tokens : List Token) (parts : Argument) : Prop :=
  ∀ top outer, Nest.run ⟨top, outer⟩ tokens = some ⟨top.push parts, outer⟩

/-- Tokens that add arguments to a list, behind a comma or at its beginning. -/
def Lists (tokens : List Token) (arguments : List Argument) : Prop :=
  ∀ done outer, ∃ top, Nest.run ⟨⟨done, []⟩, outer⟩ tokens = some ⟨top, outer⟩ ∧
    top.arguments = done ++ arguments

theorem Forms.append {a b : List Token} {p q : Argument} (ha : Forms a p) (hb : Forms b q) :
    Forms (a ++ b) (p ++ q) := by
  intro top outer
  rw [Nest.run_append (ha top outer), hb, Frame.push_push]

theorem forms_word (text : List Char) : Forms [.word text] [.word text] := fun _ _ => rfl

theorem forms_literal (value : List Char) : Forms [.literal value] [.literal value] :=
  fun _ _ => rfl

/-- A list between parentheses is a group. -/
theorem Lists.group {tokens : List Token} {arguments : List Argument}
    (h : Lists tokens arguments) :
    Forms (.opening :: tokens ++ [.closing]) [.group arguments] := by
  intro frame outer
  obtain ⟨top, hRun, hArguments⟩ := h [] (frame :: outer)
  rw [List.cons_append, Nest.run_opening, Frame.empty, Nest.run_append hRun, Nest.run_closing,
    hArguments]
  rfl

theorem Lists.nil : Lists [] [] := fun done outer => ⟨⟨done, []⟩, rfl, by simp [Frame.arguments]⟩

/-- The last argument of a list, without a comma behind it. -/
theorem Forms.last {tokens : List Token} {parts : Argument} (h : Forms tokens parts)
    (hp : parts ≠ []) : Lists tokens [parts] := by
  intro done outer
  exact ⟨_, h ⟨done, []⟩ outer, Frame.arguments_push rfl hp⟩

/-- An argument with a comma behind it comes before the rest of a list. -/
theorem Forms.cons {tokens more : List Token} {parts : Argument} {arguments : List Argument}
    (h : Forms tokens parts) (hMore : Lists more arguments) :
    Lists (tokens ++ .comma :: more) (parts :: arguments) := by
  intro done outer
  obtain ⟨top, hRun, hArguments⟩ := hMore (done ++ [parts]) outer
  refine ⟨top, ?_, by simpa using hArguments⟩
  rw [Nest.run_append (h _ _), Nest.run_comma, Frame.next_push rfl, hRun]

/-- A list of tokens that is read from the beginning. -/
theorem Lists.arguments?_eq {tokens : List Token} {arguments : List Argument}
    (h : Lists tokens arguments) : arguments? tokens = some arguments := by
  obtain ⟨top, hRun, hArguments⟩ := h [] []
  rw [arguments?, Frame.empty, hRun]
  exact congrArg some hArguments

/-! ## The literals in arguments -/

mutual

/-- The values of the literals in a part, in order. -/
def Part.literals : Part → List (List Char)
  | .word _ => []
  | .literal value => [value]
  | .group arguments => listLiterals arguments

/-- The values of the literals in some arguments, in order. -/
def listLiterals : List (List Part) → List (List Char)
  | [] => []
  | argument :: arguments => partLiterals argument ++ listLiterals arguments

/-- The values of the literals in an argument, in order. -/
def partLiterals : List Part → List (List Char)
  | [] => []
  | part :: parts => part.literals ++ partLiterals parts

end

theorem partLiterals_append (a b : Argument) :
    partLiterals (a ++ b) = partLiterals a ++ partLiterals b := by
  induction a with
  | nil => simp [partLiterals]
  | cons part a ih => simp [partLiterals, ih]

theorem listLiterals_append (a b : List Argument) :
    listLiterals (a ++ b) = listLiterals a ++ listLiterals b := by
  induction a with
  | nil => simp [listLiterals]
  | cons argument a ih => simp [listLiterals, ih]

mutual

theorem Part.literals_mapLiterals (f : List Char → List Char) : (part : Part) →
    (part.mapLiterals f).literals = part.literals.map f
  | .word _ => rfl
  | .literal _ => rfl
  | .group arguments => by
      rw [Part.mapLiterals, Part.literals, Part.literals, listLiterals_mapArguments f arguments]

theorem listLiterals_mapArguments (f : List Char → List Char) : (arguments : List (List Part)) →
    listLiterals (mapArguments f arguments) = (listLiterals arguments).map f
  | [] => rfl
  | argument :: arguments => by
      rw [mapArguments, listLiterals, listLiterals, List.map_append,
        partLiterals_mapParts f argument, listLiterals_mapArguments f arguments]

theorem partLiterals_mapParts (f : List Char → List Char) : (parts : List Part) →
    partLiterals (mapParts f parts) = (partLiterals parts).map f
  | [] => rfl
  | part :: parts => by
      rw [mapParts, partLiterals, partLiterals, List.map_append, Part.literals_mapLiterals f part,
        partLiterals_mapParts f parts]

end

/-- The literals of a list that is being read. -/
def Frame.literals (frame : Frame) : List (List Char) :=
  listLiterals frame.done ++ partLiterals frame.current

/-- The literals of a list that is being read and of those around it. -/
def Nest.literals (nest : Nest) : List (List Char) :=
  nest.outer.reverse.flatMap Frame.literals ++ nest.top.literals

theorem Frame.literals_push (frame : Frame) (parts : Argument) :
    (frame.push parts).literals = frame.literals ++ partLiterals parts := by
  simp [literals, push, partLiterals_append]

theorem Frame.literals_next (frame : Frame) : frame.next.literals = frame.literals := by
  simp [literals, next, listLiterals_append, listLiterals, partLiterals]

theorem Frame.listLiterals_arguments (frame : Frame) :
    listLiterals frame.arguments = frame.literals := by
  unfold arguments literals
  split
  · next h => simp [h, partLiterals]
  · simp [listLiterals_append, listLiterals]

/-- Every token is read with its literals behind those that were there. -/
theorem Nest.literals_step {nest next : Nest} {token : Token} (h : nest.step token = some next) :
    next.literals = nest.literals ++ literalsOf [token] := by
  obtain ⟨top, outer⟩ := nest
  cases token with
  | word text =>
      obtain rfl := Option.some.inj h
      simp [literals, Frame.literals_push, partLiterals, Part.literals, literalsOf]
  | literal value =>
      obtain rfl := Option.some.inj h
      simp [literals, Frame.literals_push, partLiterals, Part.literals, literalsOf]
  | comma =>
      obtain rfl := Option.some.inj h
      simp [literals, Frame.literals_next, literalsOf]
  | opening =>
      obtain rfl := Option.some.inj h
      simp [literals, Frame.literals, Frame.empty, listLiterals, partLiterals, literalsOf]
  | closing =>
      cases outer with
      | nil => simp [step] at h
      | cons frame outer =>
          obtain rfl := Option.some.inj h
          simp [literals, Frame.literals_push, partLiterals, Part.literals, literalsOf,
            Frame.listLiterals_arguments]

theorem Nest.literals_run {nest last : Nest} {tokens : List Token}
    (h : nest.run tokens = some last) : last.literals = nest.literals ++ literalsOf tokens := by
  induction tokens generalizing nest with
  | nil =>
      obtain rfl := Option.some.inj h
      simp
  | cons token tokens ih =>
      obtain ⟨next, hStep, hRest⟩ := Option.bind_eq_some_iff.1 h
      have hToken : literalsOf (token :: tokens) = literalsOf [token] ++ literalsOf tokens :=
        literalsOf_append [token] tokens
      rw [ih hRest, Nest.literals_step hStep, hToken, List.append_assoc]

theorem listLiterals_of_arguments? {tokens : List Token} {arguments : List Argument}
    (h : arguments? tokens = some arguments) : listLiterals arguments = literalsOf tokens := by
  unfold arguments? at h
  split at h
  · next top hRun =>
      obtain rfl := Option.some.inj h
      have hLiterals := Nest.literals_run hRun
      rw [Frame.listLiterals_arguments]
      simpa [Nest.literals, Frame.literals, Frame.empty, listLiterals, partLiterals]
        using hLiterals
  · exact nomatch h

end SvgBuilder.Source
