import SvgBuilder.Builder.Item
import SvgBuilder.Diagnostic
import SvgBuilder.Text.Blank

/-!
# Inline styles

An inline style is a list of declarations with semicolons between them.  A declaration has one
colon, with a key before it and a value behind it.  Blank segments are passed over and everything
else that is no declaration is reported and left out.

## Main results

* `declaration?_eq_some_iff`: the condition under which a segment is a declaration.
-/

namespace SvgBuilder.Style

open SvgBuilder.Text

/-- The key and the value of a segment that is a declaration. -/
def declaration? (segment : List Char) : Option (String × String) :=
  match (splitAt ':' segment).map trim with
  | [key, value] =>
    if key.isEmpty || value.isEmpty then none
    else some (String.ofList key, String.ofList value)
  | _ => none

/-- The declarations of a segment: one or none. -/
def readSegment (segment : List Char) : Noted (List (String × String)) :=
  if segment.isEmpty then pure []
  else
    match declaration? segment with
    | some entry => pure [entry]
    | none => do
      Noted.warning ("Invalid style declaration: " ++ String.ofList segment)
      pure []

/-- Reads an inline style. -/
def read (s : String) : Noted (List (String × String)) := do
  let parts ← (splitAt ';' s.toList).mapM fun segment => readSegment (trim segment)
  pure parts.flatten

/-- The statement that assigns an inline style. -/
def convert (s : String) : Noted Statement := do
  let entries ← read s
  pure ⟨.named "style", .map entries⟩

theorem declaration?_eq_some_iff {segment : List Char} {entry : String × String} :
    declaration? segment = some entry ↔
      ∃ key value, splitAt ':' segment = [key, value] ∧ trim key ≠ [] ∧ trim value ≠ [] ∧
        entry = (String.ofList (trim key), String.ofList (trim value)) := by
  unfold declaration?
  split
  · next key value h =>
    obtain ⟨k, rest, hs, rfl, hrest⟩ := List.map_eq_cons_iff.1 h
    obtain ⟨v, rest', rfl, rfl, hnil⟩ := List.map_eq_cons_iff.1 hrest
    obtain rfl := List.map_eq_nil_iff.1 hnil
    rw [hs]
    by_cases hk : trim k = []
    · simp [hk]
    · by_cases hv : trim v = []
      · simp [hv]
      · simp only [Bool.or_self, Bool.false_eq_true, if_false,
          Option.some.injEq, List.isEmpty_eq_false_iff.2 hk, List.isEmpty_eq_false_iff.2 hv]
        refine ⟨fun he => ⟨k, v, rfl, hk, hv, he.symm⟩, ?_⟩
        rintro ⟨k', v', hkv, -, -, rfl⟩
        simp_all
  · next hne =>
    simp only [reduceCtorEq, false_iff, not_exists, not_and]
    intro key value hs
    exact absurd (by rw [hs]; rfl) (hne (trim key) (trim value))

end SvgBuilder.Style
