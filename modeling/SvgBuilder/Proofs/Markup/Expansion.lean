import SvgBuilder.Markup.Document

/-!
# What the bound on references decides

What the references of a document may stand for is bounded, and the bound grows with the size of the
document.  A reading looks at the bound nowhere but where it would be exceeded, and then it ends.
So under a higher bound a document is read as it is under a lower one, unless it is refused under
the lower one.

## Main results

* `Steady.bind`: steps that a higher bound does not change.
* `steady_readProlog`, `steady_resolve`: the steps of a document.
* `accept_readBehind`: what stands behind the declaration is read alike under two bounds, unless
  one of them is exceeded.
-/

namespace SvgBuilder.Markup

open SvgBuilder.Text

variable {α β γ : Type}

/-- The same progress under a bound that may be higher. -/
structure Progress.Raised (s t : Progress) : Prop where
  le : s.allowed ≤ t.allowed
  eq : t = { s with allowed := t.allowed }

/-- Whether what is read under a lower bound and under a higher one is the same, unless the lower
one is exceeded. -/
inductive Agree : Except Fault (α × Progress) → Except Fault (α × Progress) → Prop
  | exceeded (y : Except Fault (α × Progress)) : Agree (.error .expansion) y
  | fault (f : Fault) : Agree (.error f) (.error f)
  | ok (a : α) {s t : Progress} (h : s.Raised t) : Agree (.ok (a, s)) (.ok (a, t))

/-- Whether a higher bound changes nothing of a reading that keeps to the lower one. -/
def Steady (x : Reading α) : Prop := ∀ s t, s.Raised t → Agree (x.run s) (x.run t)

namespace Steady

theorem pure (a : α) : Steady (Pure.pure a) := fun _ _ h => .ok a h

theorem throw (f : Fault) : Steady (MonadExcept.throw f : Reading α) := fun _ _ _ => .fault f

theorem bind {x : Reading α} {f : α → Reading β} (hx : Steady x) (hf : ∀ a, Steady (f a)) :
    Steady (x >>= f) := by
  intro s t h
  show Agree ((x.run s) >>= fun r => (f r.1).run r.2) ((x.run t) >>= fun r => (f r.1).run r.2)
  have hAgree := hx s t h
  generalize x.run s = low at hAgree ⊢
  generalize x.run t = high at hAgree ⊢
  cases hAgree with
  | exceeded y => exact .exceeded _
  | fault f => exact .fault f
  | ok a h => exact hf a _ _ h

theorem lift (x : Except Fault α) : Steady (liftM x) := by
  intro s t h
  cases x with
  | error f => exact .fault f
  | ok a => exact .ok a h

/-- A step that looks at the progress, but not at the bound. -/
theorem look {f : Progress → Reading β} (hBound : ∀ s n, f { s with allowed := n } = f s)
    (hf : ∀ s, Steady (f s)) : Steady (MonadState.get >>= f) := by
  intro s t h
  have hSame : f t = f s := by
    rw [h.eq]
    exact hBound s t.allowed
  show Agree ((f s).run s) ((f t).run t)
  rw [hSame]
  exact hf s s t h

theorem modify {change : Progress → Progress}
    (h : ∀ s n, change { s with allowed := n } = { change s with allowed := n })
    (hSame : ∀ s, (change s).allowed = s.allowed) :
    Steady (modify change) := by
  intro s t hRaised
  refine .ok () ⟨?_, ?_⟩
  · show (change s).allowed ≤ (change t).allowed
    rw [hSame, hSame]
    exact hRaised.le
  · show change t = { change s with allowed := (change t).allowed }
    rw [hSame, ← h, ← hRaised.eq]

theorem forM {f : α → Reading Unit} (hf : ∀ a, Steady (f a)) (as : List α) :
    Steady (as.forM f) := by
  induction as with
  | nil => exact pure ()
  | cons a as ih => exact (hf a).bind fun _ => ih

theorem mapM {f : α → Reading β} (hf : ∀ a, Steady (f a)) (as : List α) : Steady (as.mapM f) := by
  induction as with
  | nil => exact pure []
  | cons a as ih =>
    rw [List.mapM_cons]
    exact (hf a).bind fun b => ih.bind fun bs => pure (b :: bs)

/-- A reading that has to be found. -/
theorem getD {found : Option (Reading α)} {fault : Fault} (h : ∀ x, found = some x → Steady x) :
    Steady (found.getD (MonadExcept.throw fault)) := by
  cases found with
  | none => exact throw fault
  | some x => exact h x rfl

/-- A step that is made on a condition only. -/
theorem optional {c : Prop} [Decidable c] {x : Reading Unit} {f : Unit → Reading β}
    (hx : Steady x) (hf : ∀ u, Steady (f u)) : Steady (if c then x >>= f else f ()) := by
  split
  · exact hx.bind hf
  · exact hf ()

end Steady

/-! ## Problems and references -/

theorem steady_note (problem : Problem) : Steady (note problem) :=
  Steady.modify (fun _ _ => rfl) fun _ => rfl

/-- A reference that exceeds the lower bound ends the reading there. -/
theorem steady_charge (size : Nat) : Steady (charge size) := by
  intro s t h
  have hExpanded : t.expanded = s.expanded := by
    rw [h.eq]
  by_cases hLow : s.allowed < s.expanded + size + referenceCost
  · have hRun : (charge size).run s = .error .expansion := by
      show (if s.allowed < s.expanded + size + referenceCost then _ else _ : Reading Unit).run s = _
      rw [if_pos hLow]
      rfl
    rw [hRun]
    exact .exceeded _
  · have hLe : s.expanded + size + referenceCost ≤ s.allowed := Nat.le_of_not_lt hLow
    rw [run_charge_of_le hLe, run_charge_of_le (hExpanded ▸ Nat.le_trans hLe h.le)]
    refine .ok () ⟨h.le, ?_⟩
    rw [h.eq]

theorem steady_missing (d : Declarations) : Steady d.missing := by
  unfold Declarations.missing
  split
  · exact steady_note _
  · exact Steady.throw _

theorem steady_skipInstruction (s : List Char) : Steady (skipInstruction s) :=
  (Steady.lift _).bind fun _ => (Steady.forM steady_note _).bind fun _ => Steady.pure _

theorem steady_skipMisc (steps : Nat) (s : List Char) : Steady (skipMisc steps s) := by
  induction steps generalizing s with
  | zero => exact Steady.throw _
  | succ steps ih =>
    unfold skipMisc
    dsimp only
    split
    · exact (Steady.lift _).bind fun _ => ih _
    · split
      · exact (steady_skipInstruction _).bind fun _ => ih _
      · exact Steady.pure _

/-! ## Declarations -/

theorem steady_readEntityText (d : Declarations) (value : List Char) :
    Steady (readEntityText d value) := by
  unfold readEntityText
  refine (Steady.lift _).bind fun text => ?_
  split
  · exact Steady.pure _
  · refine (Steady.lift _).bind fun _ => (Steady.lift _).bind fun _ => ?_
    exact Steady.optional (Steady.throw _) fun _ =>
      (steady_missing _).bind fun _ => Steady.pure _

theorem steady_readEntityValue (levels : Nat) (d : Declarations) (parameter : Bool)
    (s : List Char) : Steady (readEntityValue levels d parameter s) := by
  unfold readEntityValue
  refine (Steady.lift _).bind fun found => ?_
  split
  · refine Steady.optional (Steady.throw _) fun _ => ?_
    split
    · refine Steady.optional (Steady.throw _) fun _ => ?_
      exact (Steady.lift _).bind fun _ => (Steady.lift _).bind fun _ => Steady.pure _
    · exact Steady.pure _
  · refine (Steady.lift _).bind fun _ => Steady.optional (Steady.throw _) fun _ => ?_
    exact (steady_readEntityText _ _).bind fun _ => Steady.pure _

theorem steady_declareEntity (d : Declarations) (name : String) (entity : Entity) :
    Steady (declareEntity d name entity) :=
  Steady.optional (steady_note _) fun _ => Steady.pure _

theorem steady_noteColon (name : List Char) : Steady (noteColon name) := by
  unfold noteColon
  split
  · exact steady_note _
  · exact Steady.pure ()

theorem steady_readEntity (levels : Nat) (d : Declarations) (s : List Char) :
    Steady (readEntity levels d s) := by
  have hValue : ∀ parameter t, Steady (readEntityValue levels d parameter t) :=
    fun _ _ => steady_readEntityValue levels d _ _
  unfold readEntity
  refine (Steady.lift _).bind fun s => ?_
  extract_lets behind
  have hBehind : ∀ r, Steady (behind r) := by
    intro r
    refine (Steady.lift _).bind fun _ => (steady_noteColon _).bind fun _ => ?_
    refine (Steady.lift _).bind fun _ => (hValue _ _).bind fun _ => ?_
    dsimp only
    split
    · exact (Steady.pure _).bind fun _ => (Steady.lift _).bind fun _ => Steady.pure _
    · refine (steady_declareEntity _ _ _).bind fun _ => ?_
      exact (Steady.lift _).bind fun _ => Steady.pure _
  split
  · exact (Steady.lift _).bind fun _ => (Steady.pure _).bind hBehind
  · exact (Steady.pure _).bind hBehind

theorem steady_readElementType (d : Declarations) (s : List Char) :
    Steady (readElementType d s) := by
  unfold readElementType
  refine (Steady.lift _).bind fun _ => (Steady.lift _).bind fun _ => ?_
  refine (Steady.lift _).bind fun _ => (Steady.lift _).bind fun _ => ?_
  refine (Steady.lift _).bind fun _ => ?_
  exact Steady.optional (steady_note _) fun _ => Steady.pure _

theorem steady_readNotation (d : Declarations) (s : List Char) :
    Steady (readNotation d s) := by
  unfold readNotation
  refine (Steady.lift _).bind fun _ => (Steady.lift _).bind fun _ => ?_
  refine (steady_noteColon _).bind fun _ => ?_
  refine (Steady.lift _).bind fun _ => (Steady.lift _).bind fun _ => ?_
  refine (Steady.lift _).bind fun _ => ?_
  exact Steady.optional (steady_note _) fun _ => Steady.pure _

theorem steady_skipAttributes (d : Declarations) (s : List Char) :
    Steady (skipAttributes d s) :=
  (Steady.lift _).bind fun _ => (Steady.lift _).bind fun _ => (Steady.lift _).bind fun _ =>
    Steady.pure _

theorem steady_of_mem_declarationReaders {levels : Nat} {opening : String}
    {read : DeclarationReader} (h : (opening, read) ∈ declarationReaders levels)
    (d : Declarations) (s : List Char) : Steady (read d s) := by
  simp only [declarationReaders, List.mem_cons, Prod.mk.injEq, List.not_mem_nil, or_false] at h
  rcases h with ⟨-, rfl⟩ | ⟨-, rfl⟩ | ⟨-, rfl⟩ | ⟨-, rfl⟩
  · exact steady_readEntity levels d s
  · exact steady_readElementType d s
  · exact steady_readNotation d s
  · exact steady_skipAttributes d s

theorem steady_readDeclaration (levels : Nat) (d : Declarations) (s : List Char) :
    Steady (readDeclaration levels d s) := by
  unfold readDeclaration
  refine Steady.getD fun reading hFound => ?_
  obtain ⟨⟨opening, read⟩, hMem, hRead⟩ := List.exists_of_findSome?_eq_some hFound
  obtain ⟨t, -, rfl⟩ := Option.map_eq_some_iff.1 hRead
  exact steady_of_mem_declarationReaders hMem d t

theorem steady_readSubset (levels : Nat) {expand : Declarations → List Char → Reading Declarations}
    (hExpand : ∀ d text, Steady (expand d text)) (bracketed : Bool) (steps : Nat)
    (d : Declarations) (s : List Char) : Steady (readSubset levels expand bracketed steps d s) := by
  induction steps generalizing d s with
  | zero => exact Steady.throw _
  | succ steps ih =>
    unfold readSubset
    split
    · split
      · exact Steady.throw _
      · exact Steady.pure _
    · split
      · exact Steady.pure _
      · exact Steady.throw _
    · refine (Steady.lift _).bind fun _ => (Steady.lift _).bind fun _ => ?_
      dsimp only
      split
      · exact (hExpand _ _).bind fun _ => ih _ _
      · exact (Steady.pure _).bind fun _ => ih _ _
      · exact (steady_missing _).bind fun _ => (Steady.pure _).bind fun _ => ih _ _
    · split
      · exact (Steady.lift _).bind fun _ => ih _ _
      · split
        · exact (steady_skipInstruction _).bind fun _ => ih _ _
        · exact (steady_readDeclaration _ _ _).bind fun _ => ih _ _

theorem steady_expandParameter (levels : Nat) (d : Declarations) (text : List Char) :
    Steady (expandParameter levels d text) := by
  induction levels generalizing d text with
  | zero => exact Steady.throw _
  | succ levels ih =>
    exact (steady_readSubset _ ih _ _ _ _).bind fun _ => (steady_charge _).bind fun _ =>
      Steady.pure _

theorem steady_readDoctype (d : Declarations) (s : List Char) : Steady (readDoctype d s) := by
  unfold readDoctype
  refine (Steady.lift _).bind fun _ => (Steady.lift _).bind fun _ => ?_
  refine (Steady.lift _).bind fun external => ?_
  dsimp only
  split
  · refine (steady_readSubset _ (steady_expandParameter _) _ _ _ _).bind fun _ => ?_
    exact (Steady.lift _).bind fun _ => Steady.pure _
  · exact (Steady.lift _).bind fun _ => Steady.pure _

theorem steady_readProlog (standalone : Bool) (s : List Char) :
    Steady (readProlog standalone s) := by
  unfold readProlog
  refine (steady_skipMisc _ _).bind fun s => ?_
  split
  · exact Steady.pure _
  · refine (steady_readDoctype _ _).bind fun _ => (steady_skipMisc _ _).bind fun _ => ?_
    exact Steady.pure _

/-! ## Values -/

theorem steady_lookUp (d : Declarations) (inValue : Bool) (name : String) :
    Steady (d.lookUp inValue name) := by
  unfold Declarations.lookUp
  split
  · exact Steady.throw _
  · split
    · exact Steady.throw _
    · exact Steady.pure _
  · exact Steady.pure _
  · exact (steady_missing _).bind fun _ => Steady.pure _

theorem steady_settle (name : String) (use : EntityUse) : Steady (settle name use) := by
  refine Steady.modify (fun s n => ?_) fun s => ?_
  · split <;> rfl
  · split <;> rfl

theorem steady_recordSize (name : String) (size : Nat) : Steady (recordSize name size) := by
  refine Steady.modify (fun s n => ?_) fun s => ?_
  · split <;> rfl
  · split <;> rfl

theorem steady_sizeOf (name : String) : Steady (sizeOf name) :=
  Steady.look (fun _ _ => rfl) fun _ => Steady.pure _

theorem steady_checkReference (d : Declarations) {check : String → List Char → Reading Unit}
    (hCheck : ∀ name text, Steady (check name text)) (name : String) :
    Steady (checkReference d check name) := by
  unfold checkReference
  refine (steady_lookUp _ _ _).bind fun entity => ?_
  split
  · refine Steady.look (fun _ _ => rfl) fun s => ?_
    refine Steady.optional (hCheck _ _) fun _ => ?_
    exact (steady_sizeOf _).bind fun _ => Steady.pure _
  · exact Steady.pure _

theorem steady_checkEntity (d : Declarations) (levels : Nat) (name : String) (text : List Char) :
    Steady (checkEntity d levels name text) := by
  induction levels generalizing name text with
  | zero => exact Steady.throw _
  | succ levels ih =>
    refine Steady.optional (Steady.throw _) fun _ => (Steady.lift _).bind fun _ => ?_
    refine (Steady.mapM (steady_checkReference d ih) _).bind fun _ => ?_
    refine (steady_recordSize _ _).bind fun _ => (steady_settle _ _).bind fun _ => ?_
    exact Steady.modify (fun _ _ => rfl) fun _ => rfl

theorem steady_checkValue (d : Declarations) (levels : Nat) (value : List Piece) :
    Steady (checkValue d levels value) := by
  refine Steady.forM (fun name => ?_) _
  refine (steady_checkReference d (steady_checkEntity d levels) name).bind fun size => ?_
  cases size with
  | none => exact Steady.pure _
  | some size => exact steady_charge size

theorem steady_expandPieces (d : Declarations) {expand : List Char → Reading (List Char)}
    (hExpand : ∀ text, Steady (expand text)) (pieces : List Piece) :
    Steady (expandPieces d expand pieces) := by
  unfold expandPieces
  refine (Steady.mapM (fun piece => ?_) _).bind fun _ => Steady.pure _
  cases piece with
  | char c => exact Steady.pure _
  | entity name =>
    refine (steady_lookUp _ _ _).bind fun entity => ?_
    split
    · exact hExpand _
    · exact Steady.pure _

theorem steady_expandEntity (d : Declarations) (levels : Nat) (text : List Char) :
    Steady (expandEntity d levels text) := by
  induction levels generalizing text with
  | zero => exact Steady.throw _
  | succ levels ih =>
    unfold expandEntity
    refine (steady_charge _).bind fun _ => Steady.optional (Steady.throw _) fun _ => ?_
    exact (Steady.lift _).bind fun _ => steady_expandPieces d ih _

/-! ## Elements -/

theorem steady_qualify (name : List Char) : Steady (qualify name) := by
  unfold qualify
  split
  · exact Steady.pure _
  · exact (steady_note _).bind fun _ => Steady.pure _

theorem steady_expandName (scope : Scope) (default : Option String) (q : QualifiedName) :
    Steady (expandName scope default q) := by
  unfold expandName
  split
  · exact Steady.pure _
  · split
    · exact Steady.pure _
    · exact (steady_note _).bind fun _ => Steady.pure _

theorem steady_noteSpace (label : Option String) (uri : List Char) :
    Steady (noteSpace label uri) := by
  unfold noteSpace
  split
  · exact Steady.pure _
  · split
    · exact steady_note _
    · split
      · exact steady_note _
      · exact Steady.pure _

theorem steady_bindingOf (label : Option String) (uri : List Char) :
    Steady (bindingOf label uri) := by
  unfold bindingOf
  dsimp only
  split
  · exact Steady.optional (steady_note _) fun _ => Steady.pure _
  · refine Steady.optional (steady_noteSpace _ _) fun _ => ?_
    split
    · exact (steady_note _).bind fun _ => Steady.pure _
    · exact Steady.pure _

theorem steady_takeAttributes (around : Surroundings) (bindings : List Binding)
    (attributes : List DraftAttribute) : Steady (takeAttributes around bindings attributes) := by
  induction attributes generalizing bindings with
  | nil => exact Steady.pure _
  | cons a attributes ih =>
    unfold takeAttributes
    refine (steady_qualify _).bind fun q => ?_
    split
    · refine (steady_expandPieces _ (steady_expandEntity _ _) _).bind fun uri => ?_
      refine (steady_bindingOf _ _).bind fun binding => ?_
      dsimp only
      split
      · exact (Steady.lift _).bind fun _ => ih _
      · exact (Steady.pure _).bind fun _ => ih _
    · refine (steady_checkValue _ _ _).bind fun _ => ?_
      refine Steady.optional (steady_note _) fun _ => ?_
      exact (ih _).bind fun _ => Steady.pure _

theorem steady_noteRepeated (attributes : List WrittenAttribute) :
    Steady (noteRepeated attributes) := by
  unfold noteRepeated
  refine (Steady.lift _).bind fun _ => (Steady.forM steady_note _).bind fun _ => ?_
  dsimp only
  split
  · exact Steady.throw _
  · exact Steady.pure _

theorem steady_noteIdentifier (value : List Char) : Steady (noteIdentifier value) := by
  unfold noteIdentifier
  refine Steady.optional (steady_note _) fun _ => ?_
  dsimp only
  split
  · refine Steady.look (fun _ _ => rfl) fun s => ?_
    split
    · exact steady_note _
    · exact Steady.modify (fun _ _ => rfl) fun _ => rfl
  · exact Steady.pure _

theorem steady_finishAttribute (d : Declarations) (a : WrittenAttribute) :
    Steady (finishAttribute d a) := by
  unfold finishAttribute
  refine Steady.look (fun _ _ => rfl) fun s => ?_
  exact Steady.optional (steady_noteIdentifier _) fun _ => Steady.pure _

theorem steady_finishAttributes (around : Surroundings) (written : List WrittenAttribute) :
    Steady (finishAttributes around written) := by
  unfold finishAttributes
  split
  · exact Steady.pure _
  · exact (Steady.mapM (steady_finishAttribute _) _).bind fun _ => Steady.pure _

/-- The text of an entity is read with a count of its own, under the same bound. -/
theorem steady_refer {around : Surroundings}
    (hText : ∀ depth text, Steady (around.readText depth text)) (depth : Nat) (name : String) :
    Steady (refer around depth name) := by
  have hRead : ∀ (text : List Char) (expanded : Nat), Steady (do
      around.readText depth text
      recordSize name ((← get).expanded + textSize text)
      settle name .content
      modify fun s => { s with expanded := expanded }
      charge (← sizeOf name)) := by
    intro text expanded
    have hRestore : Steady (modify fun s : Progress => { s with expanded := expanded }) :=
      Steady.modify (fun _ _ => rfl) fun _ => rfl
    refine (hText _ _).bind fun _ => Steady.look (fun _ _ => rfl) fun s => ?_
    refine (steady_recordSize _ _).bind fun _ => (steady_settle _ _).bind fun _ => ?_
    refine hRestore.bind fun _ => ?_
    exact (steady_sizeOf _).bind fun _ => steady_charge _
  unfold refer
  refine (steady_lookUp _ _ _).bind fun entity => ?_
  split
  · exact Steady.pure _
  · next text =>
    rintro s t ⟨hLe, hEq⟩
    generalize t.allowed = allowed at hLe hEq
    subst hEq
    show Agree ((if (s.uses.lookup name).isNone then _ else _ : Reading Unit).run s)
      ((if (s.uses.lookup name).isNone then _ else _ : Reading Unit).run _)
    split
    · exact hRead text s.expanded { s with expanded := 0 }
        { s with expanded := 0, allowed := allowed } ⟨hLe, rfl⟩
    · exact ((steady_sizeOf name).bind fun _ => steady_charge _) s _ ⟨hLe, rfl⟩
  · exact steady_charge _

mutual

theorem steady_resolve {around : Surroundings}
    (hText : ∀ depth text, Steady (around.readText depth text)) (scope : Scope) (depth : Nat)
    (draft : Draft) : Steady (draft.resolve around scope depth) := by
  cases draft with
  | element name attributes children =>
    unfold Draft.resolve
    refine (steady_qualify _).bind fun q => (steady_takeAttributes _ _ _).bind fun taken => ?_
    dsimp only
    refine (Steady.mapM (fun _ => ?_) _).bind fun written => ?_
    · exact (steady_expandName _ _ _).bind fun _ => Steady.pure _
    · refine (steady_noteRepeated _).bind fun _ => (steady_expandName _ _ _).bind fun _ => ?_
      refine (steady_finishAttributes _ _).bind fun _ => ?_
      exact (steady_resolveAll hText _ _ _).bind fun _ => Steady.pure _
  | text s =>
    unfold Draft.resolve
    exact Steady.pure _
  | comment s =>
    unfold Draft.resolve
    exact Steady.pure _
  | instruction target data =>
    unfold Draft.resolve
    exact (Steady.forM steady_note _).bind fun _ => Steady.pure _
  | reference name =>
    unfold Draft.resolve
    exact (steady_refer hText _ _).bind fun _ => Steady.pure _

theorem steady_resolveAll {around : Surroundings}
    (hText : ∀ depth text, Steady (around.readText depth text)) (scope : Scope) (depth : Nat)
    (drafts : List Draft) : Steady (resolveAll around scope depth drafts) := by
  cases drafts with
  | nil =>
    unfold resolveAll
    exact Steady.pure _
  | cons draft drafts =>
    unfold resolveAll
    refine (steady_resolve hText _ _ _).bind fun _ => ?_
    exact (steady_resolveAll hText _ _ _).bind fun _ => Steady.pure _

end

theorem steady_readEntityContent (d : Declarations) (levels depth : Nat) (text : List Char) :
    Steady (readEntityContent d levels depth text) := by
  induction levels generalizing depth text with
  | zero => exact Steady.throw _
  | succ levels ih =>
    unfold readEntityContent
    refine (Steady.lift _).bind fun r => ?_
    dsimp only
    refine Steady.optional (Steady.throw _) fun _ => ?_
    exact (steady_resolveAll ih _ _ _).bind fun _ => Steady.pure _

/-! ## Documents -/

/-- The steps behind the declaration of a document. -/
def readBehind (heading : Heading) (s : List Char) : Reading Element := do
  if heading.version ≠ knownVersion then note .version
  let (declarations, s) ← readProlog heading.standalone s
  let (draft, rest) ← readRoot (normalized s)
  let root ← draft.resolve (Surroundings.ofDocument declarations) [] 0
  let rest ← skipMisc (rest.length + 1) rest
  if !rest.isEmpty then throw .outside
  match root.element? with
  | some root => pure root
  | none => throw .outside

theorem readAll_eq (s : List Char) :
    readAll s = (liftM (readHeading? s) >>= fun r => readBehind r.1 r.2 : Reading Element) := rfl

theorem steady_readBehind (heading : Heading) (s : List Char) :
    Steady (readBehind heading s) := by
  unfold readBehind
  refine Steady.optional (steady_note _) fun _ => (steady_readProlog _ _).bind fun _ => ?_
  refine (Steady.lift _).bind fun _ => ?_
  refine (steady_resolve (steady_readEntityContent _ _) _ _ _).bind fun _ => ?_
  refine (steady_skipMisc _ _).bind fun _ => Steady.optional (Steady.throw _) fun _ => ?_
  split
  · exact Steady.pure _
  · exact Steady.throw _

theorem readBehind_congr {h₁ h₂ : Heading} (hVersion : h₁.version = h₂.version)
    (hStandalone : h₁.standalone = h₂.standalone) (s : List Char) :
    readBehind h₁ s = readBehind h₂ s := by
  rw [readBehind, readBehind, hVersion, hStandalone]

theorem allowedExpansion_mono {n m : Nat} (h : n ≤ m) :
    allowedExpansion n ≤ allowedExpansion m := by
  unfold allowedExpansion
  omega

theorem accept_of_agree {x y : Except Fault (α × Progress)} (h : Agree x y) :
    accept x = .error .expansion ∨ accept x = accept y := by
  cases h with
  | exceeded y => exact .inl rfl
  | fault f => exact .inr rfl
  | @ok a s t h =>
    have hLog : t.log = s.log := by
      rw [h.eq]
    refine .inr ?_
    show (if s.log.isAccepted then _ else _) = if t.log.isAccepted then _ else _
    rw [hLog]

/-- What stands behind the declaration is read alike in documents of two sizes, unless the bound of
one of them is exceeded. -/
theorem accept_readBehind (heading : Heading) (s : List Char) (n m : Nat) :
    accept ((readBehind heading s).run (.start n)) =
        accept ((readBehind heading s).run (.start m)) ∨
      allowedExpansion n ≠ allowedExpansion m ∧
        (accept ((readBehind heading s).run (.start n)) = .error .expansion ∨
          accept ((readBehind heading s).run (.start m)) = .error .expansion) := by
  by_cases hSame : allowedExpansion n = allowedExpansion m
  · left
    rw [Progress.start, Progress.start, hSame]
  · have hAgree : ∀ {i j : Nat}, i ≤ j → Agree ((readBehind heading s).run (.start i))
        ((readBehind heading s).run (.start j)) :=
      fun h => steady_readBehind heading s _ _ ⟨allowedExpansion_mono h, rfl⟩
    rcases Nat.le_total n m with hLe | hLe
    · rcases accept_of_agree (hAgree hLe) with hExceeded | hEq
      · exact .inr ⟨hSame, .inl hExceeded⟩
      · exact .inl hEq
    · rcases accept_of_agree (hAgree hLe) with hExceeded | hEq
      · exact .inr ⟨hSame, .inr hExceeded⟩
      · exact .inl hEq.symm

end SvgBuilder.Markup
