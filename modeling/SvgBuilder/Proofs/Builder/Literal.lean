import SvgBuilder.Builder.Literal

/-!
# Where literals end

A literal tells by itself where it ends.  The reader looks at no character behind the closing quote,
so what it has read stays the same whatever comes to stand there, and a text that is cut off inside
of a literal is refused.  A written value is read back in front of every text; therefore no value
can reach into what follows it, whatever backslashes and quotes it ends with, and the text that
begins with a literal begins with no other one.

## Main results

* `read_append`: what is read of a text is read of every longer one.
* `read_quote`: a written value is read back in front of every text.
* `quote_delimits_itself`: a literal ends at one place and stands for one value.
-/

namespace SvgBuilder.Literal

/-! ## The text behind a literal -/

/-- Reading up to the closing quote does not look behind it. -/
theorem readBody_append {s value rest : List Char} (h : readBody s = some (value, rest))
    (t : List Char) : readBody (s ++ t) = some (value, rest ++ t) := by
  fun_induction readBody s generalizing value rest with
  | case1 => cases h
  | case2 => cases h
  | case3 => cases h
  | case4 e s c hEscape ih =>
    obtain ⟨⟨v, r⟩, hBody, hBoth⟩ := Option.map_eq_some_iff.1 h
    obtain ⟨rfl, rfl⟩ := Prod.mk.inj hBoth
    simp [readBody, hEscape, ih hBody]
  | case5 s _ =>
    obtain ⟨rfl, rfl⟩ := Prod.mk.inj (Option.some.inj h)
    simp [readBody]
  | case6 => cases h
  | case7 c s _ hNoQuote hNoBreak ih =>
    obtain ⟨⟨v, r⟩, hBody, hBoth⟩ := Option.map_eq_some_iff.1 h
    obtain ⟨rfl, rfl⟩ := Prod.mk.inj hBoth
    simp [readBody, hNoQuote, hNoBreak, ih hBody]

/-- What is read of a text is read of every longer one. -/
theorem read_append {s value rest : List Char} (h : read s = some (value, rest)) (t : List Char) :
    read (s ++ t) = some (value, rest ++ t) := by
  cases s with
  | nil => cases h
  | cons c s =>
    rw [read] at h
    rw [List.cons_append, read]
    split at h
    · next hQuote =>
      rw [if_pos hQuote]
      exact readBody_append h t
    · cases h

/-! ## Written values -/

/-- A written value is read back in front of every text. -/
theorem read_quote (v t : String) : read (quote v ++ t).toList = some (v.toList, t.toList) := by
  have hText : (quote v ++ t).toList = '\x22' :: encode v.toList ++ '\x22' :: t.toList := by
    simp [quote]
  rw [hText]
  exact read_encode_append v.toList t.toList

/-- The text that begins with a literal begins with no other one. -/
theorem quote_append_inj {v w t u : String} (h : quote v ++ t = quote w ++ u) : v = w ∧ t = u := by
  have hRead := read_quote v t
  rw [h, read_quote w u] at hRead
  obtain ⟨hValue, hRest⟩ := Prod.mk.inj (Option.some.inj hRead)
  exact ⟨(String.toList_inj.1 hValue).symm, (String.toList_inj.1 hRest).symm⟩

/-- A literal that is cut off is none. -/
theorem read_eq_none_of_prefix {v : String} {front : List Char}
    (h : front <+: (quote v).toList) (hShort : front ≠ (quote v).toList) : read front = none := by
  obtain ⟨behind, hBehind⟩ := h
  cases hFront : read front with
  | none => rfl
  | some found =>
    have hWhole := read_append hFront behind
    have hQuote := read_quote v ""
    rw [String.append_empty, ← hBehind, hWhole] at hQuote
    have hRest : found.2 ++ behind = [] := (Prod.mk.inj (Option.some.inj hQuote)).2
    have hNone : behind = [] := (List.append_eq_nil_iff.1 hRest).2
    rw [hNone, List.append_nil] at hBehind
    exact absurd hBehind hShort

/-- A written value is read back in front of every text, and reading stops where that text begins.
So different values are written differently, no value reaches into what follows it, and no part of a
literal from its beginning on is read. -/
theorem quote_delimits_itself :
    (∀ v t : String, read (quote v ++ t).toList = some (v.toList, t.toList)) ∧
    Function.Injective quote ∧
    (∀ v w t u : String, quote v ++ t = quote w ++ u → v = w ∧ t = u) ∧
    ∀ (v : String) (front : List Char), front <+: (quote v).toList → front ≠ (quote v).toList →
      read front = none := by
  have hInjective : Function.Injective quote := by
    intro v w h
    exact (quote_append_inj (congrArg (· ++ "") h)).1
  exact ⟨read_quote, hInjective, fun _ _ _ _ => quote_append_inj, fun _ _ => read_eq_none_of_prefix⟩

/-- A value that ends with backslashes and quotes, in front of a quote. -/
example : read (quote "a\\\\\x22\\" ++ "\x22b").toList =
    some ("a\\\\\x22\\".toList, "\x22b".toList) := by
  decide

end SvgBuilder.Literal
