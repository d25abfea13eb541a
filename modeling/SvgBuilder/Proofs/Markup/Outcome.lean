import SvgBuilder.Markup.Progress

/-!
# What readings return

A reading may end with a fault, and what it notes on the way rarely matters to a statement about
its result.  `Ensures` and `Yields` say that whatever is returned has a property; they follow the
steps of a reading.

## Main results

* `Ensures.bind`, `Yields.bind`: properties are passed on from step to step.
* `Yields.mapM`: a reading that is made for every member of a list.
-/

namespace SvgBuilder.Markup

variable {α β : Type}

/-- Whatever is read without a fault has a property. -/
def Ensures (x : Except Fault α) (P : α → Prop) : Prop := ∀ a, x = .ok a → P a

/-- Whatever a reading returns has a property. -/
def Yields (x : Reading α) (P : α → Prop) : Prop := ∀ s, Ensures (x.run s) fun r => P r.1

namespace Ensures

theorem ok {a : α} {P : α → Prop} (h : P a) : Ensures (.ok a) P := by
  intro b hb
  exact Except.ok.inj hb ▸ h

theorem pure {a : α} {P : α → Prop} (h : P a) : Ensures (Pure.pure a) P := ok h

theorem error (f : Fault) (P : α → Prop) : Ensures (.error f) P := fun _ h => nomatch h

theorem bind {x : Except Fault α} {f : α → Except Fault β} {P : α → Prop} {Q : β → Prop}
    (hx : Ensures x P) (hf : ∀ a, P a → Ensures (f a) Q) : Ensures (x >>= f) Q := by
  intro b hb
  cases x with
  | error e => exact nomatch hb
  | ok a => exact hf a (hx a rfl) b hb

theorem trivial (x : Except Fault α) : Ensures x fun _ => True := fun _ _ => True.intro

theorem imp {x : Except Fault α} {P Q : α → Prop} (hx : Ensures x P) (h : ∀ a, P a → Q a) :
    Ensures x Q := fun a ha => h a (hx a ha)

end Ensures

namespace Yields

theorem pure {a : α} {P : α → Prop} (h : P a) : Yields (Pure.pure a) P :=
  fun _ => Ensures.pure h

theorem throw (f : Fault) (P : α → Prop) : Yields (MonadExcept.throw f) P :=
  fun _ => Ensures.error f _

theorem bind {x : Reading α} {f : α → Reading β} {P : α → Prop} {Q : β → Prop}
    (hx : Yields x P) (hf : ∀ a, P a → Yields (f a) Q) : Yields (x >>= f) Q :=
  fun s => Ensures.bind (hx s) fun r hr => hf r.1 hr r.2

theorem trivial (x : Reading α) : Yields x fun _ => True := fun _ => Ensures.trivial _

theorem imp {x : Reading α} {P Q : α → Prop} (hx : Yields x P) (h : ∀ a, P a → Q a) :
    Yields x Q := fun s => (hx s).imp fun r hr => h r.1 hr

theorem and {x : Reading α} {P Q : α → Prop} (hp : Yields x P) (hq : Yields x Q) :
    Yields x fun a => P a ∧ Q a := fun s a ha => ⟨hp s a ha, hq s a ha⟩

/-- A step whose result does not matter. -/
theorem after (x : Reading α) {f : α → Reading β} {Q : β → Prop} (hf : ∀ a, Yields (f a) Q) :
    Yields (x >>= f) Q := (trivial x).bind fun a _ => hf a

/-- A step that is made on a condition only, and whose result does not matter. -/
theorem optional {c : Prop} [Decidable c] {x : Reading Unit} {f : Unit → Reading β} {Q : β → Prop}
    (hf : ∀ u, Yields (f u) Q) : Yields (if c then x >>= f else f ()) Q := by
  split
  · exact after x hf
  · exact hf ()

theorem lift {x : Except Fault α} {P : α → Prop} (h : Ensures x P) :
    Yields (liftM x) P := by
  intro s
  exact Ensures.bind h fun a ha => Ensures.pure ha

/-- A reading that has to be found. -/
theorem getD {found : Option (Reading α)} {fault : Fault} {P : α → Prop}
    (h : ∀ x, found = some x → Yields x P) :
    Yields (found.getD (MonadExcept.throw fault)) P := by
  cases found with
  | none => exact throw fault P
  | some x => exact h x rfl

theorem mapM {f : α → Reading β} {as : List α} {P : β → Prop}
    (h : ∀ a ∈ as, Yields (f a) P) : Yields (as.mapM f) fun bs => ∀ b ∈ bs, P b := by
  induction as with
  | nil => exact pure (by simp)
  | cons a as ih =>
      rw [List.mapM_cons]
      refine (h a (by simp)).bind fun b hb => ?_
      refine (ih fun a' ha' => h a' (by simp [ha'])).bind fun bs hbs => ?_
      exact pure (by simpa using ⟨hb, hbs⟩)

end Yields

end SvgBuilder.Markup
