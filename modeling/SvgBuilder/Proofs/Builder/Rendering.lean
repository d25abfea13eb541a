import SvgBuilder.Builder.Element
import SvgBuilder.Proofs.Source.Argument
import SvgBuilder.Proofs.Text.Trim

/-!
# Reading builder expressions

A builder expression that is written as text is read back: a statement as its member and its
value, a literal as its value, a call as its method and its arguments.  Comments are read as
nothing, and the comma behind a comment stands in the comment: so a list whose last argument is
followed by a comment keeps a comma at its end, and no other list does.

`Item.tokens` and `Item.arguments` say what an expression is read as, and `Item.Readable` which
expressions are: those whose names consist of characters that stand in words, and whose comments
are line comments.

## Main results

* `scan_lineComment`: comments are read as nothing.
* `tokens?_content`: the tokens of the arguments of a call.
* `lists_contentTokens`: the arguments that these tokens make up.
* `read?_content`, `read?_call`: the arguments of a call, and a call, are read back.
-/

namespace SvgBuilder

open SvgBuilder.Markup SvgBuilder.Text SvgBuilder.Source

/-! ## Comments -/

section Comments

variable {c : Char} {s : List Char}

theorem scan_comment (hs : ∀ c ∈ s, c ≠ '\n' ∧ c ≠ '\r') :
    scan .comment s = some ([], .comment) := by
  induction s with
  | nil => rfl
  | cons c s ih =>
      obtain ⟨hn, hr⟩ := hs c (by simp)
      have hStep : Mode.comment.step c = some ([], .comment) := by simp [Mode.step, hn, hr]
      rw [scan_cons hStep, ih fun d hd => hs d (by simp [hd])]
      rfl

theorem scan_commentLine {line : List Char} (hl : ∀ c ∈ line, isLineBreak c = false) :
    scan (.code []) (commentLine line).toList = some ([], .comment) := by
  have hText : (commentLine line).toList = '/' :: '/' :: trimEnd (' ' :: line) := by
    rw [commentLine, String.toList_ofList, trimEnd_cons_of_not_isBlank (by decide),
      trimEnd_cons_of_not_isBlank (by decide)]
  have hRest : scan .comment (trimEnd (' ' :: line)) = some ([], .comment) := by
    refine scan_comment fun c hc => ?_
    rcases List.mem_cons.1 (mem_of_mem_trimEnd hc) with rfl | hc
    · decide
    · have hBreak := hl c hc
      constructor <;> rintro rfl <;> exact absurd hBreak (by decide)
  have hFirst : (Mode.code []).step '/' = some ([], .slash []) := rfl
  have hSecond : (Mode.slash []).step '/' = some ([], .comment) := rfl
  rw [hText, scan_cons hFirst, scan_cons hSecond, hRest]
  rfl

theorem not_isLineBreak_of_mem_commentLines {text : String} {line : List Char}
    (h : line ∈ commentLines text) : ∀ c ∈ line, isLineBreak c = false := by
  have hLines : line = [] ∨ line ∈ lines (trim text.toList) := by
    unfold commentLines at h
    split at h
    · exact .inl (by simpa using h)
    · exact .inr h
  rcases hLines with rfl | hLine
  · simp
  · obtain ⟨piece, -, rfl⟩ := List.mem_map.1 hLine
    intro c hc
    simpa using List.all_eq_true.1 List.all_takeWhile c hc

theorem scan_commentLines {lines : List (List Char)} (hne : lines ≠ [])
    (hl : ∀ line ∈ lines, ∀ c ∈ line, isLineBreak c = false) :
    scan (.code []) (joined "\n" (lines.map commentLine)).toList = some ([], .comment) := by
  induction lines with
  | nil => exact absurd rfl hne
  | cons line rest ih =>
      have hLine := scan_commentLine (hl line (by simp))
      cases rest with
      | nil => simpa [joined] using hLine
      | cons next rest =>
          have hRest := ih (by simp) fun l h => hl l (by simp [h])
          have hBreak : scan .comment "\n".toList = some ([], .code []) := rfl
          rw [joined, List.map_cons, List.map_cons, String.intercalate_cons_cons,
            String.toList_append, String.toList_append]
          exact scan_append_eq_some (scan_append_eq_some hLine hBreak) hRest

/-- Line comments are read as nothing, and what follows on their last line belongs to them. -/
theorem scan_lineComment (text : String) :
    scan (.code []) (lineComment text).toList = some ([], .comment) :=
  scan_commentLines (commentLines_ne_nil text) fun _ => not_isLineBreak_of_mem_commentLines

end Comments

/-! ## Statements -/

/-- Whether a text is a word, or a part of one. -/
def IsWordText (s : String) : Prop := ∀ c ∈ s.toList, isPlain c = true

instance (s : String) : Decidable (IsWordText s) := List.decidableBAll _ _

/-- What the member of a statement is read as. -/
def Member.tokens : Member → List Token
  | .named name => [.word ("svg." ++ name).toList]
  | .attribute name => [.word "svg.svgAttr".toList, .opening, .literal name.toList, .comma,
      .word "StringAsIsCodec".toList, .comma, .word "None".toList, .closing]

/-- The parts of an argument that the member of a statement becomes. -/
def Member.parts : Member → Argument
  | .named name => [.word ("svg." ++ name).toList]
  | .attribute name => [.word "svg.svgAttr".toList, .group [[.literal name.toList],
      [.word "StringAsIsCodec".toList], [.word "None".toList]]]

/-- What style declarations are read as. -/
def entriesTokens : List (String × String) → List Token
  | [] => []
  | entry :: entries =>
    [.literal entry.1.toList, .word "->".toList, .literal entry.2.toList] ++
      (if entries = [] then [] else .comma :: entriesTokens entries)

/-- What an assigned value is read as. -/
def Assigned.tokens : Assigned → List Token
  | .text value => [.literal value.toList]
  | .map entries => .word "Map".toList :: .opening :: entriesTokens entries ++ [.closing]

/-- The parts of an argument that an assigned value becomes. -/
def Assigned.parts : Assigned → Argument
  | .text value => [.literal value.toList]
  | .map entries => [.word "Map".toList, .group (entries.map fun entry =>
      [.literal entry.1.toList, .word "->".toList, .literal entry.2.toList])]

/-- What a statement is read as. -/
def Statement.tokens (s : Statement) : List Token :=
  s.member.tokens ++ .word ":=".toList :: s.value.tokens

/-- The argument that a statement is read as. -/
def Statement.argument (s : Statement) : Argument :=
  s.member.parts ++ .word ":=".toList :: s.value.parts

/-- Whether a member is read as such. -/
def Member.Readable : Member → Prop
  | .named name => IsWordText name
  | .attribute _ => True

theorem isWordText_append {s t : String} (hs : IsWordText s) (ht : IsWordText t) :
    IsWordText (s ++ t) := by
  intro c hc
  rw [String.toList_append, List.mem_append] at hc
  exact hc.elim (hs c) (ht c)

/-- A word with a blank behind it. -/
theorem scan_word_blank {s : String} (hs : IsWordText s) (hne : s ≠ "") :
    scan (.code []) (s ++ " ").toList = some ([.word s.toList], .code []) := by
  have hBlank : scan (.code s.toList) " ".toList = some ([.word s.toList], .code []) := by
    have hNil : s.toList ≠ [] := fun h => hne (String.toList_eq_nil_iff.1 h)
    simp [scan, Mode.step, codeStep, isSpace, wordTokens, hNil]
  rw [String.toList_append]
  exact scan_append_eq_some (scan_plain hs []) hBlank

theorem scan_member {member : Member} (h : member.Readable) :
    scan (.code []) (member.render ++ " := ").toList =
      some (member.tokens ++ [.word ":=".toList], .code []) := by
  have hAssign : scan (.code []) ":= ".toList = some ([.word ":=".toList], .code []) := by decide
  match member, h with
  | .named name, h =>
      have hWord : IsWordText ("svg." ++ name) := isWordText_append (by decide) h
      have hName := scan_word_blank hWord (by
        intro hEmpty
        simpa using congrArg String.toList hEmpty)
      have hText : (Member.named name).render ++ " := " = ("svg." ++ name ++ " ") ++ ":= " := by
        apply String.toList_injective
        simp [Member.render]
      rw [hText, String.toList_append]
      exact scan_append_eq_some hName hAssign
  | .attribute name, _ =>
      have hHead : scan (.code []) "svg.svgAttr(".toList =
          some ([.word "svg.svgAttr".toList, .opening], .code []) := by decide
      have hTail : scan (.code []) ", StringAsIsCodec, None) ".toList =
          some ([.comma, .word "StringAsIsCodec".toList, .comma, .word "None".toList, .closing],
            .code []) := by decide
      have hText : (Member.attribute name).render ++ " := " =
          "svg.svgAttr(" ++ Literal.quote name ++ (", StringAsIsCodec, None) " ++ ":= ") := by
        apply String.toList_injective
        simp [Member.render]
      have hName := scan_append_eq_some hHead (scan_quote [] name)
      rw [hText, String.toList_append, String.toList_append, String.toList_append]
      rw [scan_append_eq_some hName (scan_append_eq_some hTail hAssign)]
      rfl

theorem scan_renderEntry (entry : String × String) :
    scan (.code []) (renderEntry entry).toList =
      some ([.literal entry.1.toList, .word "->".toList, .literal entry.2.toList], .code []) := by
  have hArrow : scan (.code []) " -> ".toList = some ([.word "->".toList], .code []) := by decide
  have hKey := scan_append_eq_some (scan_quote [] entry.1) hArrow
  rw [renderEntry, String.toList_append, String.toList_append]
  exact scan_append_eq_some hKey (scan_quote [] entry.2)

theorem scan_entries (entries : List (String × String)) :
    scan (.code []) (joined ", " (entries.map renderEntry)).toList =
      some (entriesTokens entries, .code []) := by
  induction entries with
  | nil => rfl
  | cons entry entries ih =>
      have hEntry := scan_renderEntry entry
      cases entries with
      | nil => simpa [joined, entriesTokens] using hEntry
      | cons next entries =>
          have hComma : scan (.code []) ", ".toList = some ([.comma], .code []) := by decide
          have hNext := scan_append_eq_some (scan_append_eq_some hEntry hComma) ih
          rw [joined, List.map_cons, List.map_cons, String.intercalate_cons_cons,
            String.toList_append, String.toList_append]
          exact hNext

theorem scan_assigned (value : Assigned) :
    scan (.code []) value.render.toList = some (value.tokens, .code []) := by
  cases value with
  | text value => exact scan_quote [] value
  | map entries =>
      have hHead : scan (.code []) "Map(".toList =
          some ([.word "Map".toList, .opening], .code []) := by decide
      have hTail : scan (.code []) ")".toList = some ([.closing], .code []) := by decide
      rw [Assigned.render, String.toList_append, String.toList_append]
      exact scan_append_eq_some (scan_append_eq_some hHead (scan_entries entries)) hTail

theorem scan_statement {s : Statement} (h : s.member.Readable) :
    scan (.code []) s.render.toList = some (s.tokens, .code []) := by
  rw [Statement.render, String.toList_append]
  have hAll := scan_append_eq_some (scan_member h) (scan_assigned s.value)
  simpa [Statement.tokens] using hAll

/-! ## Statements as arguments -/

section Forming

variable (f : List Char → List Char)

theorem forms_member (member : Member) :
    Forms (member.tokens.map (Token.mapLiteral f)) (mapParts f member.parts) := by
  match member with
  | .named name => exact forms_word _
  | .attribute name =>
      have hName : Lists _ [[.literal (f name.toList)], [.word "StringAsIsCodec".toList],
          [.word "None".toList]] :=
        (forms_literal (f name.toList)).cons <| (forms_word "StringAsIsCodec".toList).cons <|
          (forms_word "None".toList).last (by simp)
      exact (forms_word "svg.svgAttr".toList).append hName.group

theorem forms_entry (entry : String × String) :
    Forms [.literal (f entry.1.toList), .word "->".toList, .literal (f entry.2.toList)]
      [.literal (f entry.1.toList), .word "->".toList, .literal (f entry.2.toList)] :=
  (forms_literal _).append ((forms_word _).append (forms_literal _))

theorem lists_entries (entries : List (String × String)) :
    Lists ((entriesTokens entries).map (Token.mapLiteral f))
      (mapArguments f (entries.map fun entry =>
        [.literal entry.1.toList, .word "->".toList, .literal entry.2.toList])) := by
  induction entries with
  | nil => exact Lists.nil
  | cons entry entries ih =>
      have hEntry := forms_entry f entry
      cases entries with
      | nil => exact hEntry.last (by simp)
      | cons next entries =>
          rw [entriesTokens, if_neg (by simp), List.map_append, List.map_cons]
          exact hEntry.cons ih

theorem forms_assigned (value : Assigned) :
    Forms (value.tokens.map (Token.mapLiteral f)) (mapParts f value.parts) := by
  cases value with
  | text value => exact forms_literal _
  | map entries =>
      have hGroup := (forms_word "Map".toList).append (lists_entries f entries).group
      simpa [Assigned.tokens, Assigned.parts, mapParts, Part.mapLiterals, Token.mapLiteral]
        using hGroup

theorem forms_statement (s : Statement) :
    Forms (s.tokens.map (Token.mapLiteral f)) (mapParts f s.argument) := by
  have hAssign := (forms_word ":=".toList).append (forms_assigned f s.value)
  have hAll := (forms_member f s.member).append hAssign
  simpa [Statement.tokens, Statement.argument, mapParts_append, mapParts, Part.mapLiterals,
    Token.mapLiteral] using hAll

end Forming

/-! ## Arguments of calls -/

/-- Reading a text ends in a word or between tokens. -/
def Ends (s : List Char) (tokens : List Token) : Prop :=
  ∃ first word, scan (.code []) s = some (first, .code word) ∧ tokens = first ++ wordTokens word

/-- A text that is read as an argument, wherever it stands. -/
def ReadsAs (text : String) (argument : Argument) : Prop :=
  ∃ tokens, Ends text.toList tokens ∧ arguments? tokens = some [argument] ∧ argument ≠ [] ∧
    ∀ f, Forms (tokens.map (Token.mapLiteral f)) (mapParts f argument)

/-- What stands behind an argument if another one follows: the comma behind a comment is a part of
that. -/
def Item.separatorTokens : Item → List Token
  | .comment _ => []
  | _ => [.comma]

mutual

/-- What an argument of a call is read as. -/
def Item.tokens : Item → List Token
  | .fixed text => (tokens? text.toList).getD []
  | .statement s => s.tokens
  | .literal value => [.literal value.toList]
  | .comment _ => []
  | .call label items =>
    .word ("svg." ++ label).toList :: .opening ::
      (contentTokens items).map (Token.reindent itemMargin.toList) ++ [.closing]

/-- What the arguments of a call are read as, before the call is indented. -/
def contentTokens : List Item → List Token
  | [] => []
  | item :: items =>
    item.tokens ++ (if items.isEmpty then [] else item.separatorTokens) ++ contentTokens items

end

mutual

/-- The argument that an item becomes.  Comments do not become one. -/
def Item.argument? : Item → Option Argument
  | .fixed text => (read? text).bind List.head?
  | .statement s => some s.argument
  | .literal value => some [.literal value.toList]
  | .comment _ => none
  | .call label items => some [.word ("svg." ++ label).toList,
      .group (mapArguments (reindented itemMargin.toList) (argumentsOf items))]

/-- The arguments that items become. -/
def argumentsOf : List Item → List Argument
  | [] => []
  | item :: items => item.argument?.toList ++ argumentsOf items

end

mutual

/-- Whether an item is read as the argument that it stands for. -/
def Item.Readable : Item → Prop
  | .fixed text => ∃ argument, ReadsAs text argument
  | .statement s => s.member.Readable
  | .literal _ => True
  | .comment text => ∃ s, text = lineComment s
  | .call label items => IsWordText label ∧ AllReadable items

/-- Whether all items are read as what they stand for. -/
def AllReadable : List Item → Prop
  | [] => True
  | item :: items => item.Readable ∧ AllReadable items

end

theorem allReadable_iff {items : List Item} :
    AllReadable items ↔ ∀ item ∈ items, item.Readable := by
  induction items with
  | nil => simp [AllReadable]
  | cons item items ih => simp [AllReadable, ih]

theorem contentTokens_cons (item : Item) (items : List Item) :
    contentTokens (item :: items) =
      item.tokens ++ (if items.isEmpty then [] else item.separatorTokens) ++
        contentTokens items := by
  rw [contentTokens]

theorem argumentsOf_cons (item : Item) (items : List Item) :
    argumentsOf (item :: items) = item.argument?.toList ++ argumentsOf items := by
  rw [argumentsOf]

theorem argumentsOf_append (a b : List Item) :
    argumentsOf (a ++ b) = argumentsOf a ++ argumentsOf b := by
  induction a with
  | nil => simp [argumentsOf]
  | cons item a ih => simp [argumentsOf, ih]

/-! ## Reading arguments -/

theorem ends_of_scan {s : List Char} {tokens : List Token}
    (h : scan (.code []) s = some (tokens, .code [])) : Ends s tokens :=
  ⟨tokens, [], h, by simp⟩

theorem Ends.tokens?_eq {s : List Char} {tokens : List Token} (h : Ends s tokens) :
    tokens? s = some tokens := by
  obtain ⟨first, word, hScan, rfl⟩ := h
  exact tokens?_eq_some_iff.2 ⟨first, _, _, hScan, rfl, rfl⟩

theorem Ends.separator {s : List Char} {tokens : List Token} (h : Ends s tokens) :
    scan (.code []) (s ++ itemSeparator.toList) = some (tokens ++ [.comma], .code []) := by
  obtain ⟨first, word, hScan, rfl⟩ := h
  have hComma : scan (.code word) itemSeparator.toList =
      some (wordTokens word ++ [.comma], .code []) := by
    have hStep : (Mode.code word).step ',' = some (wordTokens word ++ [.comma], .code []) := rfl
    have hBreak : scan (.code []) ['\n'] = some ([], .code []) := rfl
    have hText : itemSeparator.toList = [',', '\n'] := rfl
    rw [hText, scan_cons hStep, hBreak]
    simp
  rw [scan_append_eq_some hScan hComma, List.append_assoc]

theorem tokens?_append {s t : List Char} {tokens : List Token}
    (h : scan (.code []) s = some (tokens, .code [])) :
    tokens? (s ++ t) = (tokens? t).map (tokens ++ ·) := by
  rw [tokens?, scan_append h, tokens?]
  cases scan (.code []) t with
  | none => rfl
  | some result =>
      obtain ⟨more, last⟩ := result
      cases hLast : last.rest? <;> simp [hLast]

/-- A call on lines of its own, indented by blanks. -/
theorem scan_call {label content : String} (margin tail : String) (hLabel : IsWordText label)
    (hm : IsMargin margin.toList) (ht : IsMargin tail.toList) {tokens : List Token}
    (h : tokens? content.toList = some tokens) :
    scan (.code [])
        ("svg." ++ label ++ "(\n" ++ indented margin content ++ "\n" ++ tail ++ ")").toList =
      some (.word ("svg." ++ label).toList :: .opening ::
        tokens.map (Token.reindent margin.toList) ++ [.closing], .code []) := by
  have hWord := scan_plain (isWordText_append (by decide : IsWordText "svg.") hLabel) []
  have hOpening : scan (.code ("svg." ++ label).toList) "(\n".toList =
      some ([.word ("svg." ++ label).toList, .opening], .code []) := by
    simp [scan, Mode.step, codeStep, wordTokens, isSpace]
  have hContent := scan_line (tokens?_indented hm h)
  have hClosing : scan (.code []) (tail.toList ++ [')']) = some ([.closing], .code []) := by
    rw [scan_margin_code ht]
    rfl
  have hAll := scan_append_eq_some (scan_append_eq_some (scan_append_eq_some hWord hOpening)
    hContent) hClosing
  simpa using hAll

theorem scan_emptyCall {label : String} (hLabel : IsWordText label) :
    scan (.code []) ("svg." ++ label ++ "()").toList =
      some ([.word ("svg." ++ label).toList, .opening, .closing], .code []) := by
  have hWord := scan_plain (isWordText_append (by decide : IsWordText "svg.") hLabel) []
  have hParentheses : scan (.code ("svg." ++ label).toList) "()".toList =
      some ([.word ("svg." ++ label).toList, .opening, .closing], .code []) := by
    simp [scan, Mode.step, codeStep, wordTokens]
  rw [String.toList_append]
  exact scan_append_eq_some hWord hParentheses

theorem scan_callText {label content : String} (hLabel : IsWordText label) {tokens : List Token}
    (h : tokens? content.toList = some tokens) :
    scan (.code []) (callText label content).toList =
      some (.word ("svg." ++ label).toList :: .opening ::
        tokens.map (Token.reindent itemMargin.toList) ++ [.closing], .code []) := by
  unfold callText
  split
  · next hEmpty =>
      subst hEmpty
      obtain rfl : [] = tokens := Option.some.inj h
      exact scan_emptyCall hLabel
  · have hCall := scan_call itemMargin "" hLabel (by decide) (by decide) h
    simpa using hCall

/-- What stands for an argument alone and before another one. -/
structure Item.Reads (item : Item) : Prop where
  alone : tokens? item.render.toList = some item.tokens
  separated : scan (.code []) (item.render.toList ++ itemSeparator.toList) =
    some (item.tokens ++ item.separatorTokens, .code [])

theorem Ends.reads {item : Item} (h : Ends item.render.toList item.tokens)
    (hs : item.separatorTokens = [.comma]) : item.Reads :=
  ⟨h.tokens?_eq, hs ▸ h.separator⟩

theorem reads_comment (s : String) : (Item.comment (lineComment s)).Reads := by
  have hScan := scan_lineComment s
  have hBreak : scan .comment itemSeparator.toList = some ([], .code []) := rfl
  constructor
  · rw [Item.render, Item.tokens]
    exact tokens?_eq_some_iff.2 ⟨[], .comment, [], hScan, rfl, rfl⟩
  · rw [Item.render, Item.tokens]
    exact scan_append_eq_some hScan hBreak

theorem reads_fixed {text : String} {argument : Argument} (h : ReadsAs text argument) :
    (Item.fixed text).Reads := by
  obtain ⟨tokens, hEnds, -⟩ := h
  refine Ends.reads ?_ rfl
  rw [Item.render, Item.tokens, hEnds.tokens?_eq]
  exact hEnds

theorem reads_statement {s : Statement} (h : s.member.Readable) : (Item.statement s).Reads := by
  refine Ends.reads ?_ rfl
  rw [Item.render, Item.tokens]
  exact ends_of_scan (scan_statement h)

theorem reads_literal (value : String) : (Item.literal value).Reads := by
  refine Ends.reads ?_ rfl
  rw [Item.render, Item.tokens]
  exact ends_of_scan (scan_quote [] value)

theorem reads_call {label : String} {items : List Item} (hLabel : IsWordText label)
    (h : tokens? (Item.content items).toList = some (contentTokens items)) :
    (Item.call label items).Reads := by
  refine Ends.reads ?_ rfl
  rw [Item.render_call, Item.tokens]
  exact ends_of_scan (scan_callText hLabel h)

theorem content_cons (item next : Item) (items : List Item) :
    Item.content (item :: next :: items) =
      item.render ++ itemSeparator ++ Item.content (next :: items) := by
  rw [Item.content, Item.content, Item.renders, Item.renders, joined, String.intercalate_cons_cons]
  rfl

mutual

theorem Item.Readable.reads : (item : Item) → item.Readable → item.Reads
  | .fixed _, h => by
      obtain ⟨argument, h⟩ := h
      exact reads_fixed h
  | .statement _, h => reads_statement h
  | .literal value, _ => reads_literal value
  | .comment _, h => by
      obtain ⟨s, rfl⟩ := h
      exact reads_comment s
  | .call _ items, h => reads_call h.1 (tokens?_content items h.2)

/-- The arguments of a call are read as their tokens. -/
theorem tokens?_content : (items : List Item) → AllReadable items →
    tokens? (Item.content items).toList = some (contentTokens items)
  | [], _ => rfl
  | [item], h => by
      have hItem := (Item.Readable.reads item h.1).alone
      simpa [Item.content, Item.renders, joined, contentTokens] using hItem
  | item :: next :: items, h => by
      have hItem := (Item.Readable.reads item h.1).separated
      have hRest := tokens?_content (next :: items) h.2
      rw [content_cons, String.toList_append, String.toList_append, tokens?_append hItem, hRest,
        contentTokens_cons item]
      simp

end

/-! ## The arguments that are read -/

section Listing

variable (f : List Char → List Char)

omit f in
theorem ReadsAs.argument?_eq {text : String} {argument : Argument} (h : ReadsAs text argument) :
    (Item.fixed text).argument? = some argument := by
  obtain ⟨tokens, hEnds, hArguments, -⟩ := h
  rw [Item.argument?, read?, hEnds.tokens?_eq, Option.bind_some, hArguments]
  rfl

theorem ReadsAs.forms {text : String} {argument : Argument} (h : ReadsAs text argument) :
    Forms ((Item.fixed text).tokens.map (Token.mapLiteral f)) (mapParts f argument) := by
  obtain ⟨tokens, hEnds, -, -, hForms⟩ := h
  rw [Item.tokens, hEnds.tokens?_eq]
  exact hForms f

/-- The arguments that a call of a label is read with. -/
theorem forms_call {label : String} {items : List Item}
    (h : ∀ g, Lists ((contentTokens items).map (Token.mapLiteral g))
      (mapArguments g (argumentsOf items))) :
    Forms ((Item.call label items).tokens.map (Token.mapLiteral f))
      (mapParts f [.word ("svg." ++ label).toList,
        .group (mapArguments (reindented itemMargin.toList) (argumentsOf items))]) := by
  have hGroup := (h (f ∘ reindented itemMargin.toList)).group
  have hCall := (forms_word ("svg." ++ label).toList).append hGroup
  have hTokens : ((contentTokens items).map (Token.reindent itemMargin.toList)).map
      (Token.mapLiteral f) =
        (contentTokens items).map (Token.mapLiteral (f ∘ reindented itemMargin.toList)) := by
    rw [reindent_eq_mapLiteral, List.map_map]
    exact List.map_congr_left fun token _ => mapLiteral_comp f _ token
  rw [Item.tokens, List.map_append, List.map_cons, List.map_cons, hTokens, mapParts, mapParts,
    mapParts, Part.mapLiterals, Part.mapLiterals, mapArguments_comp]
  exact hCall

end Listing

mutual

/-- An item that is no comment is read as its argument, and a comment as nothing. -/
theorem Item.Readable.forms (f : List Char → List Char) : (item : Item) → item.Readable →
    (∃ argument, item.argument? = some argument ∧ argument ≠ [] ∧
      item.separatorTokens = [.comma] ∧
      Forms (item.tokens.map (Token.mapLiteral f)) (mapParts f argument)) ∨
    (item.argument? = none ∧ item.tokens = [] ∧ item.separatorTokens = [])
  | .fixed _, h => by
      obtain ⟨argument, h⟩ := h
      have hne : argument ≠ [] := by
        obtain ⟨_, _, _, hne, _⟩ := h
        exact hne
      exact .inl ⟨argument, h.argument?_eq, hne, rfl, h.forms f⟩
  | .statement s, _ => by
      refine .inl ⟨s.argument, by rw [Item.argument?], ?_, rfl, ?_⟩
      · simp [Statement.argument]
      · rw [Item.tokens]
        exact forms_statement f s
  | .literal value, _ => by
      refine .inl ⟨[.literal value.toList], by rw [Item.argument?], by simp, rfl, ?_⟩
      rw [Item.tokens]
      exact forms_literal _
  | .comment _, _ => .inr ⟨by rw [Item.argument?], by rw [Item.tokens], rfl⟩
  | .call label items, h => by
      refine .inl ⟨_, by rw [Item.argument?], by simp, rfl, ?_⟩
      exact forms_call f fun g => lists_contentTokens g items h.2

/-- The tokens of the arguments of a call make up the arguments. -/
theorem lists_contentTokens (f : List Char → List Char) : (items : List Item) →
    AllReadable items →
    Lists ((contentTokens items).map (Token.mapLiteral f)) (mapArguments f (argumentsOf items))
  | [], _ => Lists.nil
  | item :: items, h => by
      have hRest := lists_contentTokens f items h.2
      rw [contentTokens_cons, argumentsOf_cons]
      rcases Item.Readable.forms f item h.1 with
        ⟨argument, hArgument, hne, hSeparator, hForms⟩ | ⟨hArgument, hTokens, hSeparator⟩
      · rw [hArgument, hSeparator]
        cases items with
        | nil =>
            have hLast := hForms.last (by cases argument <;> simp_all [mapParts])
            simpa [contentTokens, argumentsOf, mapArguments] using hLast
        | cons next items =>
            simpa [mapArguments_append, mapArguments, Token.mapLiteral] using hForms.cons hRest
      · rw [hArgument, hTokens, hSeparator]
        simpa using hRest

end

/-- The arguments of a call are read back. -/
theorem read?_content {items : List Item} (h : AllReadable items) :
    read? (Item.content items) = some (argumentsOf items) := by
  have hLists := lists_contentTokens id items h
  rw [mapArguments_id, List.map_congr_left fun token _ => mapLiteral_id token,
    List.map_id'] at hLists
  rw [read?, tokens?_content items h]
  exact hLists.arguments?_eq

/-- A call on lines of its own is read back. -/
theorem read?_call {label : String} {items : List Item} (margin tail : String)
    (hLabel : IsWordText label) (hm : IsMargin margin.toList)
    (ht : IsMargin tail.toList) (h : AllReadable items) :
    read? ("svg." ++ label ++ "(\n" ++ indented margin (Item.content items) ++ "\n" ++ tail ++
        ")") =
      some [[.word ("svg." ++ label).toList,
        .group (mapArguments (reindented margin.toList) (argumentsOf items))]] := by
  have hScan := scan_call margin tail hLabel hm ht (tokens?_content items h)
  have hLists := lists_contentTokens (reindented margin.toList) items h
  rw [← reindent_eq_mapLiteral] at hLists
  have hCall := ((forms_word ("svg." ++ label).toList).append hLists.group).last (by simp)
  rw [read?, (ends_of_scan hScan).tokens?_eq]
  exact hCall.arguments?_eq

end SvgBuilder
