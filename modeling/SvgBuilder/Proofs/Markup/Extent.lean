import SvgBuilder.Proofs.Markup.Suffix
import SvgBuilder.Proofs.Text.LineEnd

/-!
# The parts of a document

A document that can be read has a prolog, a root element and an epilog.  The prolog is read from the
text as it is, and the rest with one kind of line end; the parts are parts of the text as it is.

## Main results

* `Gives.bind`: what is known of the steps of a reading that has given a result.
* `exists_parts`: every document that can be read has its parts.
* `Parts.start`: the root element begins with a tag.
-/

namespace SvgBuilder.Markup

open SvgBuilder.Text

/-! ## Readings with a result -/

/-- Whether a reading gives a result, from some progress. -/
def Gives {α : Type} (x : Reading α) (a : α) : Prop := ∃ s t, x.run s = .ok (a, t)

theorem ok_of_toOption {α : Type} {x : Except Fault α} {a : α} (h : x.toOption = some a) :
    x = .ok a := by
  cases x with
  | error fault => exact nomatch h
  | ok b => rw [Option.some.inj h]

theorem exists_ok_of_toOption {α β : Type} {x : Except Fault α} {f : α → β} {b : β}
    (h : x.toOption.map f = some b) : ∃ a, x = .ok a ∧ f a = b := by
  obtain ⟨a, ha, hf⟩ := Option.map_eq_some_iff.1 h
  exact ⟨a, ok_of_toOption ha, hf⟩

namespace Gives

variable {α β : Type} {x : Reading α} {f : α → Reading β} {a : α} {b : β}

theorem bind (h : Gives (x >>= f) b) : ∃ a, Gives x a ∧ Gives (f a) b := by
  obtain ⟨s, t, h⟩ := h
  change x.run s >>= (fun r => (f r.1).run r.2) = .ok (b, t) at h
  cases hx : x.run s with
  | error fault =>
    rw [hx] at h
    exact nomatch h
  | ok r =>
    rw [hx] at h
    exact ⟨r.1, ⟨s, r.2, hx⟩, r.2, t, h⟩

theorem lift {x : Except Fault α} (h : Gives (liftM x) a) : x = .ok a := by
  obtain ⟨s, t, h⟩ := h
  cases x with
  | error fault => exact nomatch h
  | ok b =>
    have hPair : (b, s) = (a, t) := Except.ok.inj h
    rw [(Prod.mk.inj hPair).1]

theorem pure {a' : α} (h : Gives (Pure.pure a) a') : a = a' := by
  obtain ⟨s, t, h⟩ := h
  have hPair : (a, s) = (a', t) := Except.ok.inj h
  exact (Prod.mk.inj hPair).1

theorem not_throw {fault : Fault} (h : Gives (MonadExcept.throw fault : Reading α) a) : False := by
  obtain ⟨s, t, h⟩ := h
  exact nomatch h

theorem optional {c : Prop} [Decidable c] {x : Reading Unit} {f : Unit → Reading β}
    (h : Gives (if c then x >>= f else f ()) b) : Gives (f ()) b := by
  split at h
  · obtain ⟨u, -, h⟩ := bind h
    exact h
  · exact h

theorem of_yields {P : α → Prop} (hx : Yields x P) (h : Gives x a) : P a := by
  obtain ⟨s, t, h⟩ := h
  exact hx s _ h

/-- A reading that can be run. -/
theorem of_run {s : Progress} (h : (x.run s).toOption.map (·.1) = some a) : Gives x a := by
  obtain ⟨r, hRun, rfl⟩ := exists_ok_of_toOption h
  exact ⟨s, r.2, hRun⟩

end Gives

/-! ## Parts -/

/-- Whether the prolog of a text ends before a rest, and the document type declaration in it. -/
inductive HasProlog (s : List Char) : List Char → List Char → Prop
  | bare {heading : Heading} {after rest : List Char}
    (hHeading : readHeading? s = .ok (heading, after))
    (hMisc : Gives (skipMisc (after.length + 1) after) rest) : HasProlog s [] rest
  | typed {heading : Heading} {after t behind rest : List Char} {d : Declarations}
    (hHeading : readHeading? s = .ok (heading, after))
    (hMisc : Gives (skipMisc (after.length + 1) after) ("<!DOCTYPE".toList ++ t ++ behind))
    (hType : Gives (readDoctype (.empty heading.standalone) (t ++ behind)) (d, behind))
    (hRest : Gives (skipMisc (behind.length + 1) behind) rest) :
    HasProlog s ("<!DOCTYPE".toList ++ t) rest

/-- Whether texts are the prolog, the document type declaration in it, the root element and the
epilog of a document. -/
structure Parts (prolog doctype root epilog : List Char) : Prop where
  opened : HasProlog (prolog ++ root ++ epilog) doctype (root ++ epilog)
  read : ∃ draft, readRoot (normalized (root ++ epilog)) = .ok (draft, normalized epilog)
  closed : ∃ x, root = x ++ ['>']
  ended : Gives (skipMisc ((normalized epilog).length + 1) (normalized epilog)) []

theorem HasProlog.suffix {s doctype rest : List Char} (h : HasProlog s doctype rest) :
    rest <:+ s := by
  cases h with
  | bare hHeading hMisc =>
    exact (Gives.of_yields (leaves_skipMisc _ _) hMisc).trans (leaves_readHeading? s _ hHeading)
  | typed hHeading hMisc hType hRest =>
    refine (Gives.of_yields (leaves_skipMisc _ _) hRest).trans ?_
    refine (List.suffix_append _ _).trans ((Gives.of_yields (leaves_skipMisc _ _) hMisc).trans ?_)
    exact leaves_readHeading? s _ hHeading

theorem exists_hasProlog {s after rest : List Char} {heading : Heading} {d : Declarations}
    (hHeading : readHeading? s = .ok (heading, after))
    (h : Gives (readProlog heading.standalone after) (d, rest)) :
    ∃ doctype, HasProlog s doctype rest := by
  obtain ⟨t, hMisc, h⟩ := Gives.bind h
  cases hOpening : behind? "<!DOCTYPE" t with
  | none =>
    rw [hOpening] at h
    obtain ⟨-, rfl⟩ := Prod.mk.inj (Gives.pure h)
    exact ⟨[], .bare hHeading hMisc⟩
  | some u =>
    rw [hOpening] at h
    obtain ⟨⟨d', behind⟩, hType, h⟩ := Gives.bind h
    obtain ⟨rest', hRest, h⟩ := Gives.bind h
    obtain ⟨rfl, rfl⟩ := Prod.mk.inj (Gives.pure h)
    obtain ⟨v, rfl⟩ := Gives.of_yields (leaves_readDoctype _ _) hType
    rw [behind?_eq_some_iff.1 hOpening, ← List.append_assoc] at hMisc
    exact ⟨_, .typed hHeading hMisc hType hRest⟩

theorem gives_readBehind {heading : Heading} {s : List Char} {root : Element}
    (h : Gives (readBehind heading s) root) :
    ∃ d rest draft behind, Gives (readProlog heading.standalone s) (d, rest) ∧
      readRoot (normalized rest) = .ok (draft, behind) ∧
      Gives (skipMisc (behind.length + 1) behind) [] ∧
      Gives (draft.resolve (.ofDocument d) [] 0) root.node := by
  unfold readBehind at h
  obtain ⟨⟨d, rest⟩, hProlog, h⟩ := Gives.bind (Gives.optional h)
  obtain ⟨⟨draft, behind⟩, hRoot, h⟩ := Gives.bind h
  obtain ⟨node, hNode, h⟩ := Gives.bind h
  obtain ⟨left, hEpilog, h⟩ := Gives.bind h
  refine ⟨d, rest, draft, behind, hProlog, Gives.lift hRoot, ?_⟩
  cases left with
  | nil =>
    refine ⟨hEpilog, ?_⟩
    cases node with
    | element name bindings attributes children =>
      rw [← Gives.pure h]
      exact hNode
    | _ => exact h.not_throw.elim
  | cons c left =>
    obtain ⟨_, hThrow, -⟩ := Gives.bind h
    exact hThrow.not_throw.elim

/-- Every document that can be read has its parts. -/
theorem exists_parts {s : List Char} {root : Element} (h : readCharacters s = .ok root) :
    ∃ prolog doctype r epilog, s = prolog ++ r ++ epilog ∧ Parts prolog doctype r epilog := by
  unfold readCharacters at h
  split at h
  · obtain ⟨p, hRun, -⟩ := isAccepted_of_accept h
    have hRead : Gives (readAll s) root := ⟨_, p, hRun⟩
    rw [readAll_eq] at hRead
    obtain ⟨⟨heading, after⟩, hHeading, hRead⟩ := Gives.bind hRead
    obtain ⟨d, rest, draft, behind, hProlog, hRoot, hEpilog, -⟩ := gives_readBehind hRead
    obtain ⟨doctype, hProlog⟩ := exists_hasProlog (Gives.lift hHeading) hProlog
    obtain ⟨prolog, rfl⟩ := hProlog.suffix
    -- the root is the part of the text that becomes what is read up to the last bracket
    obtain ⟨⟨x, hText⟩, -⟩ := leaves_readRoot _ _ hRoot
    obtain ⟨y, epilog', rfl, -, hBehind⟩ := exists_of_normalized_eq_append hText.symm
    obtain ⟨bracket, epilog, rfl, hBracket, rfl⟩ :=
      exists_of_normalized_eq_append (a := ['>']) hBehind
    obtain rfl := eq_of_normalized_eq_singleton (by decide) hBracket
    refine ⟨prolog, doctype, y ++ ['>'], epilog, by simp, ⟨?_, ⟨draft, ?_⟩, ⟨y, rfl⟩, hEpilog⟩⟩
    · simpa using hProlog
    · simpa using hRoot
  · exact nomatch h

/-- A root element begins with a tag. -/
theorem Parts.start {prolog doctype root epilog : List Char}
    (h : Parts prolog doctype root epilog) :
    ∃ c x, root = '<' :: c :: x ∧ isNameStart c = true := by
  obtain ⟨draft, hRead⟩ := h.read
  obtain ⟨x, rfl⟩ := h.closed
  obtain ⟨-, c, t, hText, hc⟩ := leaves_readRoot _ _ hRead
  have hLine : c ≠ '\n' := by
    rintro rfl
    exact absurd hc (by decide)
  obtain ⟨u, hFirst, hu⟩ := eq_of_normalized_eq_cons (by decide) hText
  obtain ⟨v, rfl, -⟩ := eq_of_normalized_eq_cons hLine hu
  -- neither of the two characters is the bracket at the end
  cases x with
  | nil => exact absurd (List.cons.inj hFirst).1 (by decide)
  | cons d x =>
    obtain ⟨rfl, hRest⟩ := List.cons.inj hFirst
    cases x with
    | nil =>
      obtain rfl := (List.cons.inj hRest).1
      exact absurd hc (by decide)
    | cons d x =>
      obtain ⟨rfl, -⟩ := List.cons.inj hRest
      exact ⟨d, x ++ ['>'], rfl, hc⟩

end SvgBuilder.Markup
