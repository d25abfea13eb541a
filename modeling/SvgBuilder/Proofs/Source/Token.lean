import SvgBuilder.Builder.Literal
import SvgBuilder.Markup.Character
import SvgBuilder.Text.Line

/-!
# Tokens of generated text

A reader of generated text that knows as little as possible of the language: string literals in
double quotes with escapes, comments from two slashes to the end of the line, commas, parentheses,
and words, which are everything else between blanks.  It reads character by character, and the
`Mode` is all that it remembers.

The reader is strict where a lenient one would have to guess: what has an escape of its own must
not stand raw in a literal, and of the characters that end a line only the line feed and the
carriage return may stand outside of literals and comments.

## Main results

* `scan_append`: text is read piece by piece.
* `scan_quote`: a written literal is read as one token with its value.
* `tokens?_line_append`: a text that ends between tokens is read apart from the lines behind it.
-/

namespace SvgBuilder.Source

open SvgBuilder.Markup SvgBuilder.Text

/-- What a text consists of, comments and blanks left out. -/
inductive Token where
  | word (text : List Char)
  | literal (value : List Char)
  | comma
  | opening
  | closing
  deriving DecidableEq, Repr

/-- Where in the text the reader is. -/
inductive Mode where
  /-- Outside of literals and comments, inside a word unless that is empty. -/
  | code (word : List Char)
  /-- Behind a slash, which belongs to the word unless another one follows. -/
  | slash (word : List Char)
  | comment
  /-- In a literal, of which a part has been read. -/
  | literal (value : List Char)
  /-- Behind a backslash in a literal. -/
  | escape (value : List Char)
  deriving DecidableEq, Repr

/-- The token of a word, unless it is empty. -/
def wordTokens (word : List Char) : List Token := if word = [] then [] else [.word word]

/-- Reads a character outside of literals and comments. -/
def codeStep (word : List Char) (c : Char) : Option (List Token × Mode) :=
  if c = '\x22' then some (wordTokens word, .literal [])
  else if c = ',' then some (wordTokens word ++ [.comma], .code [])
  else if c = '(' then some (wordTokens word ++ [.opening], .code [])
  else if c = ')' then some (wordTokens word ++ [.closing], .code [])
  else if c = '/' then some ([], .slash word)
  else if isSpace c then some (wordTokens word, .code [])
  else if isLineBreak c then none
  else some ([], .code (word ++ [c]))

/-- Reads a character: the tokens that it ends, and where it leads. -/
def Mode.step : Mode → Char → Option (List Token × Mode)
  | .code word, c => codeStep word c
  | .slash word, c =>
    if c = '/' then some (wordTokens word, .comment) else codeStep (word ++ ['/']) c
  | .comment, c => some ([], if c = '\n' ∨ c = '\r' then .code [] else .comment)
  | .literal value, c =>
    if c = '\x22' then some ([.literal value], .code [])
    else if c = '\\' then some ([], .escape value)
    else if c = '\n' ∨ c = '\r' ∨ c = '\t' then none
    else some ([], .literal (value ++ [c]))
  | .escape value, c => (Literal.unescape? c).map fun d => ([], .literal (value ++ [d]))

/-- Reads a text from a mode on: its tokens and where it ends. -/
def scan : Mode → List Char → Option (List Token × Mode)
  | mode, [] => some ([], mode)
  | mode, c :: s =>
    (mode.step c).bind fun (tokens, next) =>
      (scan next s).map fun (more, last) => (tokens ++ more, last)

/-- The token that is left at the end of a text.  A text must not end in a literal. -/
def Mode.rest? : Mode → Option (List Token)
  | .code word => some (wordTokens word)
  | .slash word => some [.word (word ++ ['/'])]
  | .comment => some []
  | .literal _ => none
  | .escape _ => none

/-- The tokens of a text. -/
def tokens? (s : List Char) : Option (List Token) :=
  (scan (.code []) s).bind fun (tokens, last) => last.rest?.map (tokens ++ ·)

/-- The values of the literals among some tokens, in order. -/
def literalsOf (tokens : List Token) : List (List Char) :=
  tokens.filterMap fun
    | .literal value => some value
    | _ => none

@[simp] theorem literalsOf_nil : literalsOf [] = [] := rfl

@[simp] theorem literalsOf_append (a b : List Token) :
    literalsOf (a ++ b) = literalsOf a ++ literalsOf b := by
  simp [literalsOf]

@[simp] theorem literalsOf_literal_cons (value : List Char) (tokens : List Token) :
    literalsOf (.literal value :: tokens) = value :: literalsOf tokens := rfl

@[simp] theorem wordTokens_nil : wordTokens [] = [] := rfl

@[simp] theorem literalsOf_wordTokens (word : List Char) : literalsOf (wordTokens word) = [] := by
  unfold wordTokens
  split <;> rfl

theorem literalsOf_of_rest? {mode : Mode} {tokens : List Token} (h : mode.rest? = some tokens) :
    literalsOf tokens = [] := by
  cases mode with
  | code word => exact Option.some.inj h ▸ literalsOf_wordTokens word
  | slash word => exact Option.some.inj h ▸ rfl
  | comment => exact Option.some.inj h ▸ rfl
  | literal value => exact nomatch h
  | escape value => exact nomatch h

/-! ## Reading piece by piece -/

theorem scan_cons {mode next : Mode} {c : Char} {tokens : List Token}
    (h : mode.step c = some (tokens, next)) (s : List Char) :
    scan mode (c :: s) = (scan next s).map fun (more, last) => (tokens ++ more, last) := by
  rw [scan, h]
  rfl

theorem scan_append {mode middle : Mode} {s : List Char} {tokens : List Token}
    (h : scan mode s = some (tokens, middle)) (t : List Char) :
    scan mode (s ++ t) = (scan middle t).map fun (more, last) => (tokens ++ more, last) := by
  induction s generalizing mode tokens with
  | nil =>
      obtain ⟨rfl, rfl⟩ : [] = tokens ∧ mode = middle := by simpa [scan] using h
      simp
  | cons c s ih =>
      obtain ⟨⟨first, next⟩, hStep, hRest⟩ := Option.bind_eq_some_iff.1 h
      obtain ⟨⟨more, last⟩, hScan, hEnd⟩ := Option.map_eq_some_iff.1 hRest
      obtain ⟨rfl, rfl⟩ : first ++ more = tokens ∧ last = middle := by simpa using hEnd
      rw [List.cons_append, scan_cons hStep, ih hScan]
      cases scan last t <;> simp

theorem scan_append_eq_some {mode middle last : Mode} {s t : List Char}
    {tokens more : List Token} (hs : scan mode s = some (tokens, middle))
    (ht : scan middle t = some (more, last)) :
    scan mode (s ++ t) = some (tokens ++ more, last) := by
  rw [scan_append hs, ht]
  rfl

/-! ## Words -/

/-- What stands in a word and nowhere else. -/
def isPlain (c : Char) : Bool :=
  c ≠ '\x22' && c ≠ ',' && c ≠ '(' && c ≠ ')' && c ≠ '/' && !isSpace c && !isLineBreak c

theorem step_plain {c : Char} (hc : isPlain c = true) (word : List Char) :
    (Mode.code word).step c = some ([], .code (word ++ [c])) := by
  simp only [isPlain, Bool.and_eq_true, decide_eq_true_eq, Bool.not_eq_true', ne_eq] at hc
  obtain ⟨⟨⟨⟨⟨⟨h₁, h₂⟩, h₃⟩, h₄⟩, h₅⟩, h₆⟩, h₇⟩ := hc
  simp [Mode.step, codeStep, h₁, h₂, h₃, h₄, h₅, h₆, h₇]

theorem scan_plain {s : List Char} (hs : ∀ c ∈ s, isPlain c = true) (word : List Char) :
    scan (.code word) s = some ([], .code (word ++ s)) := by
  induction s generalizing word with
  | nil => simp [scan]
  | cons c s ih =>
      rw [scan_cons (step_plain (hs c (by simp)) word), ih fun d hd => hs d (by simp [hd])]
      simp

/-- The codes of the characters that do not stand in words. -/
def endingCodes : List Nat :=
  [9, 10, 11, 12, 13, 28, 29, 30, 32, 34, 40, 41, 44, 47, 0x85, 0x2028, 0x2029]

theorem toNat_mem_endingCodes {c : Char} (h : isPlain c = false) : c.toNat ∈ endingCodes := by
  by_cases hSpecial : c ∈ ['\x22', ',', '(', ')', '/', ' ', '\t', '\n', '\r']
  · have hAll : (['\x22', ',', '(', ')', '/', ' ', '\t', '\n', '\r'].all fun d =>
        decide (d.toNat ∈ endingCodes)) = true := by decide
    exact of_decide_eq_true (List.all_eq_true.1 hAll c hSpecial)
  · simp only [List.mem_cons, List.not_mem_nil, or_false, not_or] at hSpecial
    have hBreak : isLineBreak c = true := by
      simpa [isPlain, isSpace, hSpecial] using h
    simp only [isLineBreak, Bool.or_eq_true, Bool.and_eq_true, decide_eq_true_eq] at hBreak
    simp only [endingCodes, List.mem_cons, List.not_mem_nil, or_false]
    omega

/-- What holds of none of the other characters holds only of those that stand in words. -/
theorem isPlain_of_codes {p : Char → Bool} (hp : ∀ n ∈ endingCodes, p (Char.ofNat n) = false)
    {c : Char} (h : p c = true) : isPlain c = true := by
  cases hPlain : isPlain c with
  | true => rfl
  | false =>
      have hCode := hp c.toNat (toNat_mem_endingCodes hPlain)
      rw [Char.ofNat_toNat, h] at hCode
      exact hCode.symm

/-! ## Literals -/

theorem scan_encodeChar (value : List Char) (c : Char) :
    scan (.literal value) (Literal.encodeChar c) = some ([], .literal (value ++ [c])) := by
  unfold Literal.encodeChar
  by_cases h₁ : c = '\\'
  · subst h₁; rfl
  by_cases h₂ : c = '\x22'
  · subst h₂; rfl
  by_cases h₃ : c = '\n'
  · subst h₃; rfl
  by_cases h₄ : c = '\r'
  · subst h₄; rfl
  by_cases h₅ : c = '\t'
  · subst h₅; rfl
  simp [h₁, h₂, h₃, h₄, h₅, scan, Mode.step]

theorem scan_encode (value s : List Char) :
    scan (.literal value) (Literal.encode s) = some ([], .literal (value ++ s)) := by
  induction s generalizing value with
  | nil => simp [Literal.encode, scan]
  | cons c s ih =>
      have hRest := scan_append_eq_some (scan_encodeChar value c) (ih (value ++ [c]))
      simpa [Literal.encode] using hRest

/-- A literal that is written is read as one token, with the value that was written. -/
theorem scan_quote (word : List Char) (s : String) :
    scan (.code word) (Literal.quote s).toList =
      some (wordTokens word ++ [.literal s.toList], .code []) := by
  have hOpen : (Mode.code word).step '\x22' = some (wordTokens word, .literal []) := rfl
  have hClose : scan (.literal s.toList) ['\x22'] = some ([.literal s.toList], .code []) := rfl
  have hBody := scan_append_eq_some (scan_encode [] s.toList) hClose
  rw [Literal.quote, String.toList_ofList, List.cons_append, scan_cons hOpen, hBody]
  rfl

/-! ## Lines -/

/-- A line feed ends every token outside of a literal. -/
theorem step_lineFeed {mode : Mode} {tokens : List Token} (h : mode.rest? = some tokens) :
    mode.step '\n' = some (tokens, .code []) := by
  cases mode with
  | code word =>
      obtain rfl : wordTokens word = tokens := by simpa [Mode.rest?] using h
      rfl
  | slash word =>
      obtain rfl : [.word (word ++ ['/'])] = tokens := by simpa [Mode.rest?] using h
      simp [Mode.step, codeStep, isSpace, wordTokens]
  | comment =>
      obtain rfl : [] = tokens := by simpa [Mode.rest?] using h
      rfl
  | literal value => simp [Mode.rest?] at h
  | escape value => simp [Mode.rest?] at h

theorem tokens?_eq_some_iff {s : List Char} {tokens : List Token} :
    tokens? s = some tokens ↔
      ∃ first last rest, scan (.code []) s = some (first, last) ∧ last.rest? = some rest ∧
        tokens = first ++ rest := by
  simp only [tokens?, Option.bind_eq_some_iff, Option.map_eq_some_iff, Prod.exists]
  constructor
  · rintro ⟨first, last, hScan, rest, hRest, rfl⟩
    exact ⟨first, last, rest, hScan, hRest, rfl⟩
  · rintro ⟨first, last, rest, hScan, hRest, rfl⟩
    exact ⟨first, last, hScan, rest, hRest, rfl⟩

/-- A text that ends between tokens is a line of its own. -/
theorem scan_line {s : List Char} {tokens : List Token} (h : tokens? s = some tokens) :
    scan (.code []) (s ++ ['\n']) = some (tokens, .code []) := by
  obtain ⟨first, last, rest, hScan, hRest, rfl⟩ := tokens?_eq_some_iff.1 h
  rw [scan_append hScan, scan_cons (step_lineFeed hRest)]
  simp [scan]

theorem tokens?_line_append {s : List Char} {tokens : List Token} (h : tokens? s = some tokens)
    (t : List Char) : tokens? (s ++ '\n' :: t) = (tokens? t).map (tokens ++ ·) := by
  have hLine := scan_append (scan_line h) t
  rw [List.append_assoc, List.singleton_append] at hLine
  rw [tokens?, hLine, tokens?]
  cases scan (.code []) t with
  | none => rfl
  | some result =>
      obtain ⟨more, last⟩ := result
      cases hLast : last.rest? <;> simp [hLast]

end SvgBuilder.Source
