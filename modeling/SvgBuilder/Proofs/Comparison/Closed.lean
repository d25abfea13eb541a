import SvgBuilder.Proofs.Comparison.Free
import SvgBuilder.Proofs.Comparison.Line
import SvgBuilder.Proofs.Component.Assembly

/-!
# Closed lines

What the pattern for attributes takes between quotes ends at the next quote, so it may run over
whatever stands in between.  A text is closed if it holds such a quote on the line on which the
method is opened.  What is generated for free texts is closed: a literal that follows the opening
ends on its line, and no other literal ends with the opening.

## Main results

* `IsClosed.append_cons`, `IsClosed.indented`: closed texts are put together and indented.
* `isClosed_statement`, `isClosed_render`, `isClosed_content`: what is generated is closed.
-/

namespace SvgBuilder

open SvgBuilder.Markup SvgBuilder.Text SvgBuilder.Source

/-- The opening of the method with the quote of a name behind it. -/
def quotedOpening : List Char := "svgAttr(\x22".toList

/-- Whether every opening with a quote is followed by another quote on its line. -/
def IsClosed (s : List Char) : Prop :=
  ∀ a b, s = a ++ quotedOpening ++ b → ∃ name rest, b = name ++ '\x22' :: rest ∧ '\n' ∉ name

theorem quotedOpening_eq : quotedOpening = otherOpening ++ ['\x22'] := rfl

theorem IsFree.isClosed {s : List Char} (h : IsFree s) : IsClosed s := by
  rintro a b rfl
  exact absurd ⟨a, '\x22' :: b, by simp [quotedOpening_eq]⟩ h

namespace IsClosed

variable {a b s t x : List Char} {c : Char}

theorem append_cons (ha : IsClosed a) (hb : IsClosed b) (hc : c ∉ quotedOpening) :
    IsClosed (a ++ c :: b) := by
  intro x y hText
  rcases split_append_cons hText.symm hc with ⟨y', hFirst, rfl⟩ | ⟨x', -, hRest⟩
  · obtain ⟨name, rest, rfl, hName⟩ := ha x y' hFirst
    exact ⟨name, rest ++ c :: b, by simp, hName⟩
  · exact hb x' y hRest

theorem of_append (h : IsClosed (a ++ b)) : IsClosed b := by
  rintro x y rfl
  exact h (a ++ x) y (by simp)

/-- Spaces between the characters do not open anything. -/
theorem spaced (h : IsClosed s) (hSpaced : Spaced s t) : IsClosed t := by
  rintro x y rfl
  rw [List.append_assoc] at hSpaced
  obtain ⟨a, b, rfl, -, hBehind⟩ := hSpaced.exists_of_append_right
  obtain ⟨y', rfl, hTail⟩ := hBehind.exists_of_word (by decide)
  obtain ⟨name, rest, rfl, hName⟩ := h a y' (by simp)
  obtain ⟨name', rest', rfl, hSpacedName, hRest⟩ := hTail.exists_of_append
  obtain ⟨m, tail, rfl, hm, -⟩ := hRest.exists_of_cons
  refine ⟨name' ++ m, tail, by simp, fun hMem => ?_⟩
  rcases List.mem_append.1 hMem with hMem | hMem
  · exact hName (hSpacedName.mem (by decide) hMem)
  · exact absurd (hm _ hMem) (by decide)

theorem indented {margin s : String} (hm : IsMargin margin.toList) (h : IsClosed s.toList) :
    IsClosed (indented margin s).toList := h.spaced (spaced_indented hm s)

/-- A line that ends with a quote is closed, unless the quote belongs to an opening. -/
theorem of_line (hLine : '\n' ∉ s) (hEnd : ¬otherOpening <:+ s) : IsClosed (s ++ ['\x22']) := by
  intro x y hText
  rcases List.eq_nil_or_concat y with rfl | ⟨name, d, rfl⟩
  · refine absurd ⟨x, ?_⟩ hEnd
    rw [quotedOpening_eq, List.append_nil, ← List.append_assoc] at hText
    exact (List.append_inj_left' hText rfl).symm
  · rw [List.concat_eq_append, ← List.append_assoc] at hText
    obtain ⟨rfl, hLast⟩ := List.append_inj' hText rfl
    obtain rfl : '\x22' = d := List.cons.inj hLast |>.1
    exact ⟨name, [], by simp, fun hMem => hLine (List.mem_append_right _ hMem)⟩

end IsClosed

/-! ## Literals and statements -/

theorem not_mem_encode (s : List Char) : '\n' ∉ Literal.encode s := by
  intro hMem
  obtain ⟨c, -, hChar⟩ := List.mem_flatMap.1 hMem
  unfold Literal.encodeChar at hChar
  iterate 5
    split at hChar
    · exact absurd hChar (by decide)
  exact absurd (List.mem_singleton.1 hChar).symm ‹¬c = '\n'›

/-- The literal of a free text, with the beginning of its line. -/
theorem isClosed_quote {x : List Char} (hx : '\n' ∉ x) {s : String} (h : IsFree s.toList) :
    IsClosed (x ++ (Literal.quote s).toList) := by
  have hText : x ++ (Literal.quote s).toList =
      (x ++ '\x22' :: Literal.encode s.toList) ++ ['\x22'] := by
    simp [Literal.quote]
  rw [hText]
  refine IsClosed.of_line (by simp [hx, not_mem_encode]) ?_
  rintro ⟨y, hy⟩
  have hSplit : y ++ otherOpening ++ [] = x ++ '\x22' :: Literal.encode s.toList := by
    simpa using hy
  -- the literal begins with a quote, which the opening does not hold
  rcases split_append_cons hSplit (by decide) with ⟨_, -, hNil⟩ | ⟨x', -, hEncode⟩
  · simp at hNil
  · exact h.encode ⟨x', [], hEncode.symm⟩

/-- Whether the texts of a value that is assigned are free. -/
def Assigned.IsFree : Assigned → Prop
  | .text value => SvgBuilder.IsFree value.toList
  | .map entries => ∀ entry ∈ entries,
    SvgBuilder.IsFree entry.1.toList ∧ SvgBuilder.IsFree entry.2.toList

/-- The name of a member, or that of the attribute. -/
def Member.name : Member → String
  | .named name => name
  | .attribute name => name

/-- Whether the texts of a statement are free. -/
structure Statement.IsFree (s : Statement) : Prop where
  member : SvgBuilder.IsFree s.member.name.toList
  value : s.value.IsFree

theorem isClosed_renderEntry {x : List Char} (hx : '\n' ∉ x) {entry : String × String}
    (hKey : IsFree entry.1.toList) (hValue : IsFree entry.2.toList) :
    IsClosed (x ++ (renderEntry entry).toList) := by
  have hArrow : IsFree ['-', '>'] := by decide
  have hRest := hArrow.isClosed.append_cons (isClosed_quote List.not_mem_nil hValue)
    (by decide : ' ' ∉ quotedOpening)
  have hAll := (isClosed_quote hx hKey).append_cons hRest (by decide : ' ' ∉ quotedOpening)
  simpa [renderEntry] using hAll

theorem isClosed_entries {entries : List (String × String)}
    (h : ∀ entry ∈ entries, IsFree entry.1.toList ∧ IsFree entry.2.toList) {x : List Char}
    (hx : '\n' ∉ x) (hFree : IsFree x) :
    IsClosed (x ++ (joined ", " (entries.map renderEntry)).toList) := by
  induction entries generalizing x with
  | nil => simpa [joined] using hFree.isClosed
  | cons entry entries ih =>
    have hEntry := h entry (by simp)
    have hFirst := isClosed_renderEntry hx hEntry.1 hEntry.2
    cases entries with
    | nil => simpa [joined] using hFirst
    | cons next entries =>
      have hRest := ih (fun e he => h e (List.mem_cons_of_mem _ he)) (by decide : '\n' ∉ [' '])
        (by decide)
      have hAll := hFirst.append_cons hRest (by decide : ',' ∉ quotedOpening)
      rw [joined, List.map_cons, List.map_cons, String.intercalate_cons_cons]
      simpa [joined] using hAll

theorem isClosed_assigned {value : Assigned} (h : value.IsFree) : IsClosed value.render.toList := by
  cases value with
  | text value =>
    have hQuote := isClosed_quote (x := []) List.not_mem_nil h
    rwa [List.nil_append] at hQuote
  | map entries =>
    have hEntries := isClosed_entries h (x := "Map(".toList) (by decide) (by decide)
    have hNil : IsFree [] := by decide
    have hAll := hEntries.append_cons hNil.isClosed (by decide : ')' ∉ quotedOpening)
    simpa [Assigned.render] using hAll

theorem isClosed_member {member : Member} (h : IsFree member.name.toList) :
    IsClosed member.render.toList := by
  match member, h with
  | .named name, h =>
    have hBuilder : IsFree "svg".toList := by decide
    have hAll := hBuilder.append_cons h (by decide : '.' ∉ otherOpening)
    simpa [Member.render, Member.name] using hAll.isClosed
  | .attribute name, h =>
    have hName := isClosed_quote (x := "svg.svgAttr(".toList) (by decide) h
    have hTail : IsFree " StringAsIsCodec, None)".toList := by decide
    have hAll := hName.append_cons hTail.isClosed (by decide : ',' ∉ quotedOpening)
    simpa [Member.render, Member.name] using hAll

/-- Statements of free texts are closed. -/
theorem isClosed_statement {s : Statement} (h : s.IsFree) : IsClosed s.render.toList := by
  have hSign : IsFree [':', '='] := by decide
  have hRest := hSign.isClosed.append_cons (isClosed_assigned h.value)
    (by decide : ' ' ∉ quotedOpening)
  have hAll := (isClosed_member h.member).append_cons hRest (by decide : ' ' ∉ quotedOpening)
  simpa [Statement.render] using hAll

/-! ## Calls -/

/-- A name of a call may end with the name of the method, but then no quote follows. -/
theorem isClosed_label {label : String} (h : IsFree label.toList) :
    IsClosed ("svg." ++ label ++ "(").toList := by
  intro x y hText
  have hBuilder : IsFree "svg".toList := by decide
  have hName := hBuilder.append_cons h (by decide : '.' ∉ otherOpening)
  have hLabel : ("svg." ++ label ++ "(").toList = "svg".toList ++ '.' :: label.toList ++ ['('] := by
    simp
  rw [hLabel, quotedOpening_eq] at hText
  rcases List.eq_nil_or_concat y with rfl | ⟨y', d, rfl⟩
  · rw [List.append_nil, ← List.append_assoc] at hText
    have hLast : ['('] = ['\x22'] := List.append_inj_right' hText rfl
    exact absurd hLast (by decide)
  · rw [List.concat_eq_append, ← List.append_assoc] at hText
    have hInside := List.append_inj_left' hText rfl
    exact absurd ⟨x, '\x22' :: y', by simpa using hInside.symm⟩ hName

mutual

/-- Whether what stands in an argument is free, or closed as it is. -/
def Item.IsFree : Item → Prop
  | .fixed text => IsClosed text.toList
  | .statement s => s.IsFree
  | .literal value => SvgBuilder.IsFree value.toList
  | .comment text => SvgBuilder.IsFree text.toList
  | .call label items => SvgBuilder.IsFree label.toList ∧ AllFree items

/-- Whether what stands in some arguments is free. -/
def AllFree : List Item → Prop
  | [] => True
  | item :: items => item.IsFree ∧ AllFree items

end

theorem allFree_iff {items : List Item} : AllFree items ↔ ∀ item ∈ items, item.IsFree := by
  induction items with
  | nil => simp [AllFree]
  | cons item items ih => simp [AllFree, ih]

theorem isClosed_callText {label content : String} (hLabel : IsFree label.toList)
    (h : IsClosed content.toList) : IsClosed (callText label content).toList := by
  have hOpening := isClosed_label hLabel
  have hNil : IsFree [] := by decide
  have hBreak : '\n' ∉ quotedOpening := by decide
  have hEnd : ')' ∉ quotedOpening := by decide
  unfold callText
  split
  · simpa using hOpening.append_cons hNil.isClosed hEnd
  · have hMargin : IsMargin itemMargin.toList := by decide
    have hContent := h.indented hMargin
    have hTail := hContent.append_cons (hNil.isClosed.append_cons hNil.isClosed hEnd) hBreak
    simpa using hOpening.append_cons hTail hBreak

mutual

/-- What is generated of free texts is closed. -/
theorem isClosed_render : (item : Item) → item.IsFree → IsClosed item.render.toList
  | .fixed _, h => h
  | .statement _, h => isClosed_statement h
  | .literal _, h => by
    have hQuote := isClosed_quote (x := []) List.not_mem_nil h
    rwa [List.nil_append] at hQuote
  | .comment _, h => IsFree.isClosed h
  | .call label items, h => by
    rw [Item.render_call]
    exact isClosed_callText h.1 (isClosed_content items h.2)

theorem isClosed_content : (items : List Item) → AllFree items →
    IsClosed (Item.content items).toList
  | [], _ => by
    have hNil : IsFree [] := by decide
    simpa [Item.content, Item.renders, joined] using hNil.isClosed
  | [item], h => by
    have hItem := isClosed_render item h.1
    simpa [Item.content, Item.renders, joined] using hItem
  | item :: next :: items, h => by
    have hItem := isClosed_render item h.1
    have hRest := isClosed_content (next :: items) h.2
    have hNil : IsFree [] := by decide
    have hBreak := hNil.isClosed.append_cons hRest (by decide : '\n' ∉ quotedOpening)
    have hAll := hItem.append_cons hBreak (by decide : ',' ∉ quotedOpening)
    rw [content_cons]
    simpa [itemSeparator] using hAll

end

end SvgBuilder
