import SvgBuilder.Proofs.Yaml.Value
import SvgBuilder.Yaml.Document

/-!
# The table of a text

While the nodes of a text become values, the table of its collections is changed in two ways: a
place gets what a collection holds, and a pair gets a place of its own.  So numbers stand for
collections in the table that is read.

## Main results

* `KeepsTable.construct`: the value of a node is found without a change of the table.
* `isTable_of_readValue`: the table of a text holds collections.
-/

namespace SvgBuilder.Yaml

open SvgBuilder.Text SvgBuilder.Yaml.Value

variable {α β : Type}

/-! ## Tables -/

theorem isTable_empty : IsTable #[] := fun _ => rfl

theorem isTable_replicate (n : Nat) : IsTable (Array.replicate n .null) := by
  intro m
  rw [Array.getD_eq_getD_getElem?, Array.getElem?_replicate]
  split <;> rfl

section Tables

variable {shared : Collections} (h : IsTable shared) {v : Value} (hv : v.mayBeShared = true)

include h hv

theorem Value.IsTable.set (n : Nat) : IsTable (shared.setIfInBounds n v) := by
  intro m
  have hOld := h m
  rw [Array.getD_eq_getD_getElem?] at hOld ⊢
  rw [Array.getElem?_setIfInBounds]
  split
  · split
    · exact hv
    · rfl
  · exact hOld

theorem Value.IsTable.push : IsTable (shared.push v) := by
  intro m
  have hOld := h m
  rw [Array.getD_eq_getD_getElem?] at hOld ⊢
  rw [Array.getElem?_push]
  split
  · exact hv
  · exact hOld

end Tables

/-! ## Steps -/

/-- Whether a step keeps the table one of collections, and its result has a property. -/
def KeepsTable (x : Constructing α) (P : α → Prop) : Prop :=
  ∀ s, IsTable s.shared → ∀ a s', x.run s = .ok (a, s') → IsTable s'.shared ∧ P a

namespace KeepsTable

variable {P : α → Prop} {Q : β → Prop}

theorem pure {a : α} (h : P a) : KeepsTable (Pure.pure a) P := by
  intro s hs b s' hRun
  obtain ⟨rfl, rfl⟩ := Prod.mk.inj (Except.ok.inj hRun)
  exact ⟨hs, h⟩

theorem throw (fault : Fault) : KeepsTable (MonadExcept.throw fault : Constructing α) P :=
  fun _ _ _ _ hRun => nomatch hRun

theorem bind {x : Constructing α} {f : α → Constructing β} (hx : KeepsTable x P)
    (hf : ∀ a, P a → KeepsTable (f a) Q) : KeepsTable (x >>= f) Q := by
  intro s hs b s'' hRun
  rw [StateT.run_bind] at hRun
  cases hFirst : x.run s with
  | error fault =>
    rw [hFirst] at hRun
    cases hRun
  | ok first =>
    rw [hFirst] at hRun
    obtain ⟨hs', ha⟩ := hx s hs first.1 first.2 hFirst
    exact hf first.1 ha first.2 hs' b s'' hRun

theorem imp {P' : α → Prop} {x : Constructing α} (hx : KeepsTable x P) (h : ∀ a, P a → P' a) :
    KeepsTable x P' :=
  fun s hs a s' hRun => (hx s hs a s' hRun).imp id (h a)

/-- A step whose result does not matter. -/
theorem after {x : Constructing α} {f : α → Constructing β} (hx : KeepsTable x fun _ => True)
    (hf : ∀ a, KeepsTable (f a) Q) : KeepsTable (x >>= f) Q :=
  hx.bind fun a _ => hf a

/-- A step that is refused on a condition. -/
theorem refused {c : Prop} [Decidable c] {fault : Fault} {x : Unit → Constructing β}
    (h : ∀ u, KeepsTable (x u) Q) :
    KeepsTable (if c then MonadExcept.throw fault >>= x else x ()) Q := by
  split
  · exact after (throw fault) h
  · exact h ()

theorem get : KeepsTable (MonadState.get : Constructing Construction) fun _ => True := by
  intro s hs a s' hRun
  obtain ⟨rfl, rfl⟩ := Prod.mk.inj (Except.ok.inj hRun)
  exact ⟨hs, True.intro⟩

theorem of_modify {f : Construction → Construction}
    (h : ∀ s, IsTable s.shared → IsTable (f s).shared) :
    KeepsTable (modify f : Constructing Unit) fun _ => True := by
  intro s hs a s' hRun
  obtain ⟨-, rfl⟩ := Prod.mk.inj (Except.ok.inj hRun)
  exact ⟨h s hs, True.intro⟩

theorem lift (x : Except Fault α) : KeepsTable (liftM x) fun _ => True := by
  intro s hs a s' hRun
  cases x with
  | error fault => cases hRun
  | ok b =>
    obtain ⟨-, rfl⟩ := Prod.mk.inj (Except.ok.inj hRun)
    exact ⟨hs, True.intro⟩

theorem mapM {f : α → Constructing β} {as : List α} (h : ∀ a, KeepsTable (f a) fun _ => True) :
    KeepsTable (as.mapM f) fun _ => True := by
  induction as with
  | nil => exact pure True.intro
  | cons a as ih =>
    rw [List.mapM_cons]
    exact (h a).after fun _ => ih.after fun _ => pure True.intro

theorem forM {f : α → Constructing Unit} {as : List α} (h : ∀ a, KeepsTable (f a) fun _ => True) :
    KeepsTable (as.forM f) fun _ => True := by
  induction as with
  | nil => exact pure True.intro
  | cons a as ih => exact (h a).after fun _ => ih

/-! ## Nodes -/

theorem nodeAt (number : Nat) : KeepsTable (Yaml.nodeAt number) fun _ => True :=
  get.after fun _ => pure True.intro

theorem entriesOf (number : Nat) : KeepsTable (Yaml.entriesOf number) fun _ => True := by
  refine (nodeAt number).after fun node => ?_
  split <;> exact pure True.intro

theorem change (number : Nat) (f : Node → Node) :
    KeepsTable (Yaml.change number f) fun _ => True := of_modify fun _ hs => hs

theorem contributed {settle : Nat → Constructing Unit}
    (h : ∀ number, KeepsTable (settle number) fun _ => True) (number : Nat) :
    KeepsTable (Yaml.contributed settle number) fun _ => True := by
  refine (nodeAt number).after fun node => ?_
  split
  · exact (h number).after fun _ => entriesOf number
  · refine (mapM fun item => ?_).after fun _ => pure True.intro
    refine (nodeAt item).after fun node => ?_
    split
    · exact (h item).after fun _ => entriesOf item
    · exact throw _
  · exact throw _

theorem settleFrom (steps number index : Nat) (merged : List (Nat × Nat)) :
    KeepsTable (Yaml.settleFrom steps number index merged) fun _ => True := by
  induction steps generalizing number index merged with
  | zero => exact throw _
  | succ steps ih =>
    refine (entriesOf number).after fun entries => get.after fun s => ?_
    split
    · split
      · exact change _ _
      · exact pure True.intro
    · split
      · refine (change _ _).after fun _ => ?_
        exact (contributed (fun other => ih other 0 []) _).after fun more => ih _ _ _
      · exact (change _ _).after fun _ => ih _ _ _

theorem settleMerges (number : Nat) : KeepsTable (Yaml.settleMerges number) fun _ => True := by
  refine get.after fun s => (entriesOf number).after fun entries => ?_
  split
  · exact settleFrom _ _ _ _
  · exact pure True.intro

/-! ## Values -/

theorem scalarTextOf (steps number : Nat) :
    KeepsTable (Yaml.scalarTextOf steps number) fun _ => True := by
  induction steps generalizing number with
  | zero => exact throw _
  | succ steps ih =>
    refine (nodeAt number).after fun node => ?_
    split
    · exact pure True.intro
    · exact throw _
    · refine get.after fun s => ?_
      dsimp only
      split
      · exact ih _
      · exact throw _

theorem constructScalar (number : Nat) (node : Node) :
    KeepsTable (Yaml.constructScalar number node) fun _ => True := by
  unfold Yaml.constructScalar
  split
  · refine refused fun _ => get.after fun s => (scalarTextOf _ number).after fun text => ?_
    exact throw _
  · refine refused fun _ => get.after fun s => (scalarTextOf _ number).after fun text => ?_
    split <;> exact lift _

/-- The value of a node is found without a change of the table. -/
theorem construct (number : Nat) : KeepsTable (Yaml.construct number) fun _ => True := by
  have hStored (value : Value) : KeepsTable (do
      modify fun s : Construction =>
        { s with values := s.values.setIfInBounds number (some value) }
      Pure.pure value) fun _ => True :=
    after (of_modify fun _ hs => hs) fun _ => pure True.intro
  refine get.after fun s => ?_
  split
  · exact pure True.intro
  · refine (nodeAt number).after fun node => ?_
    dsimp only
    split
    · exact after (of_modify fun _ hs => hs) fun _ => hStored _
    · exact (constructScalar number node).after hStored

theorem constructEntries (number : Nat) :
    KeepsTable (Yaml.constructEntries number) fun _ => True := by
  refine (nodeAt number).after fun node => ?_
  split
  · refine (settleMerges number).after fun _ => (entriesOf number).after fun entries => ?_
    refine (mapM fun entry => ?_).after fun _ => pure True.intro
    refine (construct entry.1).after fun key => ?_
    split
    · exact throw _
    · exact (construct entry.2).after fun _ => pure True.intro
  · exact throw _

theorem share {v : Value} (h : v.mayBeShared = true) : KeepsTable (Yaml.share v) fun _ => True :=
  get.after fun _ => after (of_modify fun _ hs => hs.push h) fun _ => pure True.intro

theorem constructPair (number : Nat) : KeepsTable (Yaml.constructPair number) fun _ => True := by
  refine (nodeAt number).after fun node => ?_
  split
  · next key value _ =>
    exact (construct key).after fun key => (construct value).after fun value => share rfl
  · exact throw _

/-- What a collection holds may have a number. -/
theorem constructContent (number : Nat) :
    KeepsTable (Yaml.constructContent number) fun v => v.mayBeShared = true := by
  have hItems (node : Node) : KeepsTable (itemsOf node) fun _ => True := by
    unfold itemsOf
    split
    · exact pure True.intro
    · exact throw _
  refine (nodeAt number).after fun node => ?_
  split
  · exact (constructEntries number).after fun _ => pure rfl
  · exact (constructEntries number).after fun _ => pure rfl
  · exact (hItems node).after fun items => (mapM construct).after fun _ => pure rfl
  · exact (hItems node).after fun items => (mapM constructPair).after fun _ => pure rfl

theorem constructPending (rounds : Nat) :
    KeepsTable (Yaml.constructPending rounds) fun _ => True := by
  induction rounds with
  | zero => exact pure True.intro
  | succ rounds ih =>
    refine get.after fun s => ?_
    dsimp only
    split
    · refine after (of_modify fun _ hs => hs) fun _ => (forM fun number => ?_).after fun _ => ih
      exact (constructContent number).bind fun value hValue =>
        of_modify fun _ hs => hs.set hValue number
    · exact pure True.intro

end KeepsTable

theorem isTable_of_value {nodes : Nodes} {number : Nat} {shared : Collections} {value : Value}
    (h : nodes.value number = .ok (shared, value)) : IsTable shared := by
  have hSteps : KeepsTable (do
      let value ← construct number
      constructPending (nodes.size + 1)
      pure (value, ())) fun _ => True :=
    (KeepsTable.construct number).after fun _ =>
      (KeepsTable.constructPending _).after fun _ => .pure True.intro
  unfold Nodes.value at h
  dsimp only at h
  generalize hRun : StateT.run _ _ = outcome at h
  cases outcome with
  | error fault => cases h
  | ok last =>
    obtain ⟨rfl, -⟩ := Prod.mk.inj (Except.ok.inj h)
    exact (hSteps _ (isTable_replicate _) last.1 last.2 hRun).1

/-- The table of a text holds collections. -/
theorem isTable_of_readValue {s : List Char} {shared : Collections} {value : Value}
    (h : readValue s = .ok (shared, value)) : IsTable shared := by
  unfold readValue at h
  split at h
  · cases hTokens : Node.ofTokens (TokenStream.of (normalized s)) with
    | error fault =>
      rw [hTokens] at h
      cases h
    | ok found =>
      rw [hTokens] at h
      cases found with
      | none =>
        obtain ⟨rfl, -⟩ := Prod.mk.inj (Except.ok.inj h)
        exact isTable_empty
      | some found => exact isTable_of_value h
  · cases h

end SvgBuilder.Yaml
