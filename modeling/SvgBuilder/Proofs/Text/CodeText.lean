import SvgBuilder.Text.CodeText
import SvgBuilder.Text.Split

/-!
# Texts that are put together

Texts with a separator between them are shown as their parts are, and can be written if the
separator and all parts can.

## Main results

* `shown_joined`: what is shown of texts with a separator between them.
* `isWhole_joined`: when such a text can be written.
-/

namespace SvgBuilder.Text.CodeText

theorem joined_cons_cons (sep first second : CodeText) (rest : List CodeText) :
    joined sep (first :: second :: rest) = first ++ sep ++ joined sep (second :: rest) :=
  ext List.intercalate_cons_cons

theorem joined_singleton (sep part : CodeText) : joined sep [part] = part :=
  ext (@List.intercalate_singleton _ sep.codes part.codes)

theorem shown_joined (sep : CodeText) (parts : List CodeText) :
    (joined sep parts).shown = Text.joined sep.shown (parts.map shown) := by
  match parts with
  | [] => rfl
  | [part] =>
    rw [joined_singleton]
    exact String.intercalate_singleton.symm
  | first :: second :: rest =>
    rw [joined_cons_cons, shown_append, shown_append, shown_joined sep (second :: rest)]
    exact String.intercalate_cons_cons.symm

theorem isWhole_joined {sep : CodeText} (hSep : sep.isWhole = true) {parts : List CodeText}
    (h : ∀ part ∈ parts, part.isWhole = true) : (joined sep parts).isWhole = true := by
  match parts with
  | [] => rfl
  | [part] =>
    rw [joined_singleton]
    exact h part List.mem_cons_self
  | first :: second :: rest =>
    obtain ⟨hFirst, hRest⟩ := List.forall_mem_cons.1 h
    have ih := isWhole_joined hSep hRest
    rw [joined_cons_cons, isWhole_append, isWhole_append, hFirst, hSep, ih]
    rfl

end SvgBuilder.Text.CodeText
