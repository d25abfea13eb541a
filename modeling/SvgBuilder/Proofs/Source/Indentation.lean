import SvgBuilder.Proofs.Source.Token

/-!
# Indentation of generated text

A text that becomes the content of a call is indented once more, and indentation cuts it at every
character that ends a line.  Outside of literals that only adds blanks.  In a literal only those
line ends can stand that have no escape: the vertical tab, the form feed, the separators of ASCII
and Unicode and the next-line control.  Behind each of them the margin gets into the literal and
becomes a part of its value, except before a line that is blank.

## Main results

* `toList_indented`: indentation as a function of the characters.
* `tokens?_indented`: the tokens of an indented text are those of the text, with every literal
  value re-indented.
* `reindented_of_no_break`, `length_lt_reindented`: re-indentation keeps a value without a raw line
  end and makes every other one longer.
-/

namespace SvgBuilder.Source

open SvgBuilder.Markup SvgBuilder.Text

/-! ## Indentation character by character -/

/-- Whether a line ends behind a character: a carriage return before a line feed does not end it
yet. -/
def endsLine (c : Char) (s : List Char) : Bool :=
  isLineBreak c && !(c = '\r' && s.head? = some '\n')

/-- Whether the first line of a text is blank. -/
def startsBlank : List Char → Bool
  | [] => true
  | c :: s => isBlank c && (endsLine c s || startsBlank s)

/-- The margin of the first line of a text. -/
def lineMargin (margin s : List Char) : List Char := if startsBlank s then [] else margin

/-- A text with a margin before each of its lines but the first. -/
def indentTail (margin : List Char) : List Char → List Char
  | [] => []
  | c :: s =>
    if endsLine c s then c :: (lineMargin margin s ++ indentTail margin s)
    else c :: indentTail margin s

theorem endsLine_of_pair {c : Char} {s : List Char} (h : c = '\r' ∧ s.head? = some '\n') :
    endsLine c s = false := by
  simp [endsLine, h]

theorem endsLine_of_not_pair {c : Char} {s : List Char} (h : ¬(c = '\r' ∧ s.head? = some '\n')) :
    endsLine c s = isLineBreak c := by
  have hPair : (decide (c = '\r') && decide (s.head? = some '\n')) = false := by
    simpa using h
  simp [endsLine, hPair]

theorem flatMap_withMargin_piecesFrom (margin line s : List Char) :
    (Text.piecesFrom line s).flatMap (withMargin margin) =
      (if line.all isBlank && startsBlank s then [] else margin) ++ line.reverse ++
        indentTail margin s := by
  induction s generalizing line with
  | nil =>
      cases line with
      | nil => rfl
      | cons c line =>
          simp only [Text.piecesFrom, List.isEmpty_cons, Bool.false_eq_true, if_false, startsBlank,
            indentTail, withMargin, List.all_reverse, Bool.and_true, List.append_nil,
            List.flatMap_cons, List.flatMap_nil]
          split <;> simp
  | cons c s ih =>
      have hAll : (c :: line).all isBlank = (isBlank c && line.all isBlank) := rfl
      by_cases hPair : c = '\r' ∧ s.head? = some '\n'
      · rw [Text.piecesFrom, if_pos hPair, ih, startsBlank, indentTail, endsLine_of_pair hPair,
          hAll]
        simp [Bool.and_comm, Bool.and_left_comm]
      · have hEnd := endsLine_of_not_pair hPair
        by_cases hBreak : isLineBreak c = true
        · rw [Text.piecesFrom, if_neg hPair, if_pos hBreak, List.flatMap_cons, ih, startsBlank,
            indentTail, hEnd, hBreak, withMargin, List.all_reverse, hAll]
          simp only [List.all_nil, Bool.true_and, Bool.true_or, if_true, List.reverse_nil,
            List.append_nil, List.reverse_cons, lineMargin, Bool.and_comm]
          split <;> simp
        · rw [Bool.not_eq_true] at hBreak
          rw [Text.piecesFrom, if_neg hPair, hBreak, if_neg Bool.false_ne_true, ih, startsBlank,
            indentTail, hEnd, hBreak, hAll]
          simp [Bool.and_comm, Bool.and_left_comm]

theorem toList_indented (margin s : String) :
    (indented margin s).toList =
      lineMargin margin.toList s.toList ++ indentTail margin.toList s.toList := by
  have h := flatMap_withMargin_piecesFrom margin.toList [] s.toList
  rw [indented, String.toList_ofList, pieces, h]
  simp [lineMargin]

/-! ## Indentation of values -/

/-- The line ends that stand raw in a literal. -/
def isRawBreak (c : Char) : Bool := isLineBreak c && c ≠ '\n' && c ≠ '\r'

/-- The blanks that stand raw in a literal. -/
def isRawBlank (c : Char) : Bool := isBlank c && c ≠ '\n' && c ≠ '\r' && c ≠ '\t'

/-- Whether a value goes on with a line that is blank.  Its last line is not, since the closing
quote stands on it. -/
def blankAhead : List Char → Bool
  | [] => false
  | c :: value => isRawBlank c && (isRawBreak c || blankAhead value)

/-- What becomes of a value when the text that it stands in is indented. -/
def reindented (margin : List Char) : List Char → List Char
  | [] => []
  | c :: value =>
    if isRawBreak c then
      c :: ((if blankAhead value then [] else margin) ++ reindented margin value)
    else c :: reindented margin value

/-- What becomes of a token when the text that it stands in is indented. -/
def Token.reindent (margin : List Char) : Token → Token
  | .literal value => .literal (reindented margin value)
  | token => token

theorem map_reindent_of_literalsOf_eq_nil {tokens : List Token} (h : literalsOf tokens = [])
    (margin : List Char) : tokens.map (Token.reindent margin) = tokens := by
  have hAll : ∀ token ∈ tokens, token.reindent margin = token := by
    intro token hToken
    cases token with
    | literal value => simpa using List.filterMap_eq_nil_iff.1 h _ hToken
    | _ => rfl
  rw [List.map_congr_left hAll, List.map_id']

theorem literalsOf_map_reindent (margin : List Char) (tokens : List Token) :
    literalsOf (tokens.map (Token.reindent margin)) =
      (literalsOf tokens).map (reindented margin) := by
  induction tokens with
  | nil => rfl
  | cons token tokens ih =>
      cases token with
      | literal value => exact congrArg (reindented margin value :: ·) ih
      | _ => exact ih

/-! ## Margins -/

/-- Whether a text consists of blanks. -/
def IsMargin (margin : List Char) : Prop := ∀ c ∈ margin, c = ' '

instance (margin : List Char) : Decidable (IsMargin margin) := List.decidableBAll _ _

section Margin

variable {margin : List Char} (hm : IsMargin margin)

include hm

theorem scan_margin_code (t : List Char) :
    scan (.code []) (margin ++ t) = scan (.code []) t := by
  induction margin with
  | nil => rfl
  | cons c margin ih =>
      obtain rfl := hm c (by simp)
      have hStep : (Mode.code []).step ' ' = some ([], .code []) := rfl
      rw [List.cons_append, scan_cons hStep, ih fun d hd => hm d (by simp [hd])]
      simp

theorem scan_margin_comment (t : List Char) :
    scan .comment (margin ++ t) = scan .comment t := by
  induction margin with
  | nil => rfl
  | cons c margin ih =>
      obtain rfl := hm c (by simp)
      have hStep : Mode.comment.step ' ' = some ([], .comment) := rfl
      rw [List.cons_append, scan_cons hStep, ih fun d hd => hm d (by simp [hd])]
      simp

theorem scan_margin_literal (value t : List Char) :
    scan (.literal value) (margin ++ t) = scan (.literal (value ++ margin)) t := by
  induction margin generalizing value with
  | nil => simp
  | cons c margin ih =>
      obtain rfl := hm c (by simp)
      have hStep : (Mode.literal value).step ' ' = some ([], .literal (value ++ [' '])) := rfl
      rw [List.cons_append, scan_cons hStep, ih fun d hd => hm d (by simp [hd])]
      simp

end Margin

/-! ## Reading an indented text -/

/-- Outside of literals a character ends no literal.  A line ends only there or in a comment. -/
theorem codeStep_eq_some {word : List Char} {c : Char} {tokens : List Token} {next : Mode}
    (h : codeStep word c = some (tokens, next)) :
    literalsOf tokens = [] ∧
      (next = .literal [] ∧ isLineBreak c = false ∨
        next.rest?.isSome ∧ (isLineBreak c = true → next = .code [])) := by
  unfold codeStep at h
  split at h
  · next hc =>
      obtain ⟨rfl, rfl⟩ := Prod.mk.inj (Option.some.inj h)
      exact ⟨literalsOf_wordTokens word, .inl ⟨rfl, hc ▸ by decide⟩⟩
  iterate 3
    split at h
    · obtain ⟨rfl, rfl⟩ := Prod.mk.inj (Option.some.inj h)
      exact ⟨by rw [literalsOf_append, literalsOf_wordTokens]; rfl, .inr ⟨rfl, fun _ => rfl⟩⟩
  split at h
  · next hc =>
      obtain ⟨rfl, rfl⟩ := Prod.mk.inj (Option.some.inj h)
      exact ⟨rfl, .inr ⟨rfl, fun hBreak => absurd hBreak (by rw [hc]; decide)⟩⟩
  split at h
  · obtain ⟨rfl, rfl⟩ := Prod.mk.inj (Option.some.inj h)
    exact ⟨literalsOf_wordTokens word, .inr ⟨rfl, fun _ => rfl⟩⟩
  split at h
  · exact nomatch h
  · next hBreak =>
      obtain ⟨rfl, rfl⟩ := Prod.mk.inj (Option.some.inj h)
      exact ⟨rfl, .inr ⟨rfl, fun h => absurd h hBreak⟩⟩

theorem step_eq_some {mode next : Mode} {c : Char} {tokens : List Token}
    (hm : mode.rest?.isSome) (h : mode.step c = some (tokens, next)) :
    literalsOf tokens = [] ∧
      (next = .literal [] ∧ isLineBreak c = false ∨
        next.rest?.isSome ∧ (isLineBreak c = true → next = .code [] ∨ next = .comment)) := by
  have hCode {word : List Char} (h : codeStep word c = some (tokens, next)) :
      literalsOf tokens = [] ∧
        (next = .literal [] ∧ isLineBreak c = false ∨
          next.rest?.isSome ∧ (isLineBreak c = true → next = .code [] ∨ next = .comment)) := by
    obtain ⟨hTokens, hNext | ⟨hNext, hBreak⟩⟩ := codeStep_eq_some h
    · exact ⟨hTokens, .inl hNext⟩
    · exact ⟨hTokens, .inr ⟨hNext, fun h => .inl (hBreak h)⟩⟩
  cases mode with
  | code word => exact hCode h
  | slash word =>
      simp only [Mode.step] at h
      split at h
      · obtain ⟨rfl, rfl⟩ := Prod.mk.inj (Option.some.inj h)
        exact ⟨literalsOf_wordTokens word, .inr ⟨rfl, fun _ => .inr rfl⟩⟩
      · exact hCode h
  | comment =>
      obtain ⟨rfl, rfl⟩ := Prod.mk.inj (Option.some.inj h)
      refine ⟨rfl, .inr ?_⟩
      split
      · exact ⟨rfl, fun _ => .inl rfl⟩
      · exact ⟨rfl, fun _ => .inr rfl⟩
  | literal value => simp [Mode.rest?] at hm
  | escape value => simp [Mode.rest?] at hm

/-- Reading a text and reading it indented, from outside of literals on. -/
def FollowsCode (margin s : List Char) : Prop :=
  ∀ mode tokens last, mode.rest?.isSome → scan mode s = some (tokens, last) →
    last.rest?.isSome →
    scan mode (indentTail margin s) = some (tokens.map (Token.reindent margin), last)

/-- Reading a text and reading it indented, from inside a literal on: the rest of the literal is
re-indented, whatever has been read of it. -/
def FollowsLiteral (margin s : List Char) : Prop :=
  ∀ value tokens last, scan (.literal value) s = some (tokens, last) → last.rest?.isSome →
    ∃ rest more, tokens = .literal (value ++ rest) :: more ∧ startsBlank s = blankAhead rest ∧
      ∀ value', scan (.literal value') (indentTail margin s) =
        some (.literal (value' ++ reindented margin rest) :: more.map (Token.reindent margin), last)

/-- Reading a text and reading it indented, from behind a backslash on. -/
def FollowsEscape (margin s : List Char) : Prop :=
  ∀ value tokens last, scan (.escape value) s = some (tokens, last) → last.rest?.isSome →
    ∃ c rest more, tokens = .literal (value ++ c :: rest) :: more ∧ isRawBlank c = false ∧
      isRawBreak c = false ∧
      ∀ value', scan (.escape value') (indentTail margin s) =
        some (.literal (value' ++ c :: reindented margin rest) ::
          more.map (Token.reindent margin), last)

section Follow

variable {margin : List Char} (hm : IsMargin margin)

theorem lineMargin_subset (s : List Char) : ∀ c ∈ lineMargin margin s, c ∈ margin := by
  unfold lineMargin
  split <;> simp

theorem indentTail_cons_of_not_endsLine {c : Char} {s : List Char} (h : endsLine c s = false) :
    indentTail margin (c :: s) = c :: indentTail margin s := by
  simp [indentTail, h]

theorem endsLine_eq_false {c : Char} (h : isLineBreak c = false) (s : List Char) :
    endsLine c s = false := by
  simp [endsLine, h]

include hm

theorem followsCode_cons {c : Char} {s : List Char} (hCode : FollowsCode margin s)
    (hLiteral : FollowsLiteral margin s) : FollowsCode margin (c :: s) := by
  intro mode tokens last hMode hScan hLast
  obtain ⟨⟨first, next⟩, hStep, hRest⟩ := Option.bind_eq_some_iff.1 hScan
  obtain ⟨⟨more, last'⟩, hMore, hEnd⟩ := Option.map_eq_some_iff.1 hRest
  obtain ⟨rfl, rfl⟩ : first ++ more = tokens ∧ last' = last := by simpa using hEnd
  obtain ⟨hFirst, ⟨rfl, hc⟩ | ⟨hNext, hBreak⟩⟩ := step_eq_some hMode hStep
  · -- a literal begins
    obtain ⟨rest, more, rfl, -, hIndented⟩ := hLiteral _ _ _ hMore hLast
    rw [indentTail_cons_of_not_endsLine (endsLine_eq_false hc s), scan_cons hStep, hIndented []]
    simp [map_reindent_of_literalsOf_eq_nil hFirst, Token.reindent]
  · have hIndented := hCode _ _ _ hNext hMore hLast
    by_cases hEnds : endsLine c s = true
    · -- a line ends, and the margin of the next one is passed over
      have hSkip : scan next (lineMargin margin s ++ indentTail margin s) =
          scan next (indentTail margin s) := by
        have hMargin : IsMargin (lineMargin margin s) := fun d hd =>
          hm d (lineMargin_subset s d hd)
        have hc : isLineBreak c = true := by
          simp only [endsLine, Bool.and_eq_true] at hEnds
          exact hEnds.1
        rcases hBreak hc with rfl | rfl
        · exact scan_margin_code hMargin _
        · exact scan_margin_comment hMargin _
      rw [indentTail, if_pos hEnds, scan_cons hStep, hSkip, hIndented]
      simp [map_reindent_of_literalsOf_eq_nil hFirst]
    · rw [Bool.not_eq_true] at hEnds
      rw [indentTail_cons_of_not_endsLine hEnds, scan_cons hStep, hIndented]
      simp [map_reindent_of_literalsOf_eq_nil hFirst]

omit hm in
theorem followsLiteral_quote {s : List Char} (hCode : FollowsCode margin s) :
    FollowsLiteral margin ('\x22' :: s) := by
  intro value tokens last hScan hLast
  have hStep (value : List Char) :
      (Mode.literal value).step '\x22' = some ([.literal value], .code []) := rfl
  rw [scan_cons (hStep value)] at hScan
  obtain ⟨⟨more, last'⟩, hMore, hEnd⟩ := Option.map_eq_some_iff.1 hScan
  obtain ⟨rfl, rfl⟩ : .literal value :: more = tokens ∧ last' = last := by simpa using hEnd
  refine ⟨[], more, by simp, rfl, fun value' => ?_⟩
  rw [indentTail_cons_of_not_endsLine (endsLine_eq_false (by decide) s), scan_cons (hStep value'),
    hCode _ _ _ rfl hMore hLast]
  simp [reindented]

omit hm in
theorem followsLiteral_backslash {s : List Char} (hEscape : FollowsEscape margin s) :
    FollowsLiteral margin ('\\' :: s) := by
  intro value tokens last hScan hLast
  have hStep (value : List Char) : (Mode.literal value).step '\\' = some ([], .escape value) := rfl
  rw [scan_cons (hStep value)] at hScan
  obtain ⟨⟨more, last'⟩, hMore, hEnd⟩ := Option.map_eq_some_iff.1 hScan
  obtain ⟨rfl, rfl⟩ : more = tokens ∧ last' = last := by simpa using hEnd
  obtain ⟨c, rest, more, rfl, hBlank, hBreak, hIndented⟩ := hEscape _ _ _ hMore hLast
  refine ⟨c :: rest, more, rfl, by simp [blankAhead, hBlank, startsBlank, isBlank], ?_⟩
  intro value'
  rw [indentTail_cons_of_not_endsLine (endsLine_eq_false (by decide) s), scan_cons (hStep value'),
    hIndented value']
  simp [reindented, hBreak]

/-- A character that stands raw in a literal: if it ends a line, the margin gets into the value. -/
theorem followsLiteral_raw {c : Char} {s : List Char} (h₁ : c ≠ '\x22') (h₂ : c ≠ '\\')
    (hLiteral : FollowsLiteral margin s) : FollowsLiteral margin (c :: s) := by
  intro value tokens last hScan hLast
  by_cases hc : c = '\n' ∨ c = '\r' ∨ c = '\t'
  · simp [scan, Mode.step, h₁, h₂, hc] at hScan
  have hStep (value : List Char) :
      (Mode.literal value).step c = some ([], .literal (value ++ [c])) := by
    simp [Mode.step, h₁, h₂, hc]
  rw [scan_cons (hStep value)] at hScan
  obtain ⟨⟨more, last'⟩, hMore, hEnd⟩ := Option.map_eq_some_iff.1 hScan
  obtain ⟨rfl, rfl⟩ : more = tokens ∧ last' = last := by simpa using hEnd
  obtain ⟨rest, more, rfl, hBlank, hIndented⟩ := hLiteral _ _ _ hMore hLast
  simp only [not_or] at hc
  obtain ⟨hn, hr, ht⟩ := hc
  have hEnds : endsLine c s = isRawBreak c := by simp [endsLine, isRawBreak, hn, hr]
  have hRaw : isRawBlank c = isBlank c := by simp [isRawBlank, hn, hr, ht]
  refine ⟨c :: rest, more, by simp, ?_, fun value' => ?_⟩
  · rw [startsBlank, blankAhead, hEnds, hRaw, hBlank]
  · cases hBreak : isRawBreak c with
    | true =>
        have hMargin : lineMargin margin s = if blankAhead rest then [] else margin := by
          rw [lineMargin, hBlank]
        have hSpaces : IsMargin (lineMargin margin s) := fun d hd =>
          hm d (lineMargin_subset s d hd)
        rw [indentTail, hEnds, hBreak, if_pos rfl, scan_cons (hStep value'),
          scan_margin_literal hSpaces, hIndented, hMargin]
        simp [reindented, hBreak]
    | false =>
        rw [indentTail_cons_of_not_endsLine (hEnds.trans hBreak), scan_cons (hStep value'),
          hIndented]
        simp [reindented, hBreak]

omit hm in
theorem unescape?_eq_some {c d : Char} (h : Literal.unescape? c = some d) :
    (isRawBlank d = false ∧ isRawBreak d = false) ∧ isLineBreak c = false := by
  unfold Literal.unescape? at h
  iterate 5
    split at h
    · next hc =>
        obtain rfl := Option.some.inj h
        subst hc
        decide
  exact nomatch h

omit hm in
theorem followsEscape_cons {c : Char} {s : List Char} (hLiteral : FollowsLiteral margin s) :
    FollowsEscape margin (c :: s) := by
  intro value tokens last hScan hLast
  cases hc : Literal.unescape? c with
  | none => simp [scan, Mode.step, hc] at hScan
  | some d =>
      have hStep (value : List Char) :
          (Mode.escape value).step c = some ([], .literal (value ++ [d])) := by
        simp [Mode.step, hc]
      rw [scan_cons (hStep value)] at hScan
      obtain ⟨⟨more, last'⟩, hMore, hEnd⟩ := Option.map_eq_some_iff.1 hScan
      obtain ⟨rfl, rfl⟩ : more = tokens ∧ last' = last := by simpa using hEnd
      obtain ⟨rest, more, rfl, -, hIndented⟩ := hLiteral _ _ _ hMore hLast
      obtain ⟨⟨hBlank, hBreak⟩, hEnds⟩ := unescape?_eq_some hc
      refine ⟨d, rest, more, by simp, hBlank, hBreak, fun value' => ?_⟩
      rw [indentTail_cons_of_not_endsLine (endsLine_eq_false hEnds s), scan_cons (hStep value'),
        hIndented]
      simp

/-- Reading follows indentation in every mode. -/
theorem follows (s : List Char) :
    FollowsCode margin s ∧ FollowsLiteral margin s ∧ FollowsEscape margin s := by
  induction s with
  | nil =>
      refine ⟨?_, ?_, ?_⟩
      · intro mode tokens last _ hScan _
        obtain ⟨rfl, rfl⟩ := Prod.mk.inj (Option.some.inj hScan)
        rfl
      · intro value tokens last hScan hLast
        obtain ⟨rfl, rfl⟩ := Prod.mk.inj (Option.some.inj hScan)
        simp [Mode.rest?] at hLast
      · intro value tokens last hScan hLast
        obtain ⟨rfl, rfl⟩ := Prod.mk.inj (Option.some.inj hScan)
        simp [Mode.rest?] at hLast
  | cons c s ih =>
      obtain ⟨hCode, hLiteral, hEscape⟩ := ih
      refine ⟨followsCode_cons hm hCode hLiteral, ?_, followsEscape_cons hLiteral⟩
      by_cases h₁ : c = '\x22'
      · exact h₁ ▸ followsLiteral_quote hCode
      by_cases h₂ : c = '\\'
      · exact h₂ ▸ followsLiteral_backslash hEscape
      exact followsLiteral_raw hm h₁ h₂ hLiteral

/-- Indentation re-indents the values of the literals and changes nothing else. -/
theorem tokens?_indentTail {s : List Char} {tokens : List Token} (h : tokens? s = some tokens) :
    tokens? (lineMargin margin s ++ indentTail margin s) =
      some (tokens.map (Token.reindent margin)) := by
  obtain ⟨first, last, rest, hScan, hRest, rfl⟩ := tokens?_eq_some_iff.1 h
  have hMargin : IsMargin (lineMargin margin s) := fun c hc => hm c (lineMargin_subset s c hc)
  have hIndented := (follows hm s).1 _ _ _ rfl hScan (by simp [hRest])
  have hLiterals := literalsOf_of_rest? hRest
  rw [tokens?_eq_some_iff]
  refine ⟨_, last, rest, (scan_margin_code hMargin _).trans hIndented, hRest, ?_⟩
  rw [List.map_append, map_reindent_of_literalsOf_eq_nil hLiterals]

end Follow

theorem tokens?_indented {margin s : String} (hm : IsMargin margin.toList)
    {tokens : List Token} (h : tokens? s.toList = some tokens) :
    tokens? (indented margin s).toList =
      some (tokens.map (Token.reindent margin.toList)) := by
  rw [toList_indented]
  exact tokens?_indentTail hm h

/-! ## The values that indentation keeps -/

theorem length_le_reindented (margin value : List Char) :
    value.length ≤ (reindented margin value).length := by
  induction value with
  | nil => simp [reindented]
  | cons c value ih =>
      unfold reindented
      split
      · simp only [List.length_cons, List.length_append]
        omega
      · simpa using ih

theorem reindented_of_no_break {value : List Char} (h : ∀ c ∈ value, isRawBreak c = false)
    (margin : List Char) : reindented margin value = value := by
  induction value with
  | nil => rfl
  | cons c value ih =>
      have hValue := ih fun d hd => h d (by simp [hd])
      simp [reindented, h c (by simp), hValue]

theorem exists_break_of_blankAhead {value : List Char} (h : blankAhead value = true) :
    ∃ c ∈ value, isRawBreak c = true := by
  induction value with
  | nil => exact nomatch h
  | cons c value ih =>
      simp only [blankAhead, Bool.and_eq_true, Bool.or_eq_true] at h
      rcases h.2 with hc | hValue
      · exact ⟨c, by simp, hc⟩
      · obtain ⟨d, hd, hBreak⟩ := ih hValue
        exact ⟨d, by simp [hd], hBreak⟩

/-- Every line of a value gets the margin, or a later one does: the last line is not blank. -/
theorem length_lt_reindented {margin : List Char} (hm : margin ≠ []) {value : List Char}
    (h : ∃ c ∈ value, isRawBreak c = true) :
    value.length < (reindented margin value).length := by
  induction value with
  | nil => simp at h
  | cons c value ih =>
      have hMargin := List.length_pos_iff.2 hm
      by_cases hc : isRawBreak c = true
      · by_cases hAhead : blankAhead value = true
        · have hLater : ∃ d ∈ value, isRawBreak d = true := exists_break_of_blankAhead hAhead
          have hLonger := ih hLater
          simp only [reindented, hc, hAhead, if_true, List.nil_append, List.length_cons]
          omega
        · have hLonger := length_le_reindented margin value
          simp only [reindented, hc, hAhead, if_true, List.length_cons, List.length_append]
          simp only [Bool.false_eq_true, if_false]
          omega
      · have hLater : ∃ d ∈ value, isRawBreak d = true := by simpa [hc] using h
        simpa [reindented, hc] using ih hLater

end SvgBuilder.Source
