import SvgBuilder.Text.CodeText

/-!
# Diagnostics

A conversion notes what it does: every step, every recoverable issue and every error.
`Noted α` is a value together with the notes made on the way to it, in order.  A function that
returns `Noted α` cannot see or change what was noted before it, so notes are only ever added.

## Main results

* `Noted.notes_bind`: the notes of a sequence are those of its parts, in order.
* `LawfulMonad Noted`.
-/

namespace SvgBuilder

open SvgBuilder.Text

/-- The kinds of notes. -/
inductive Level where
  /-- Shown to those who follow every step, and kept nowhere. -/
  | trace
  /-- A step of the conversion. -/
  | info
  /-- A recoverable issue. -/
  | warning
  /-- An error. -/
  | error
  deriving DecidableEq, Repr

/-- A message of one kind.  It may name files, so its code points need not be characters. -/
structure Note where
  level : Level
  spelling : CodeText
  deriving DecidableEq, Repr

namespace Note

/-- A message as a text of characters. -/
def text (n : Note) : String := n.spelling.shown

/-- The messages of one kind by their code points, in order. -/
def spellings (level : Level) (notes : List Note) : List CodeText :=
  (notes.filter (·.level = level)).map (·.spelling)

/-- The messages of one kind, in order. -/
def texts (level : Level) (notes : List Note) : List String :=
  (notes.filter (·.level = level)).map (·.text)

/-- Whether there is an error among the notes. -/
def anyError (notes : List Note) : Bool := notes.any (·.level = .error)

@[simp] theorem text_mk (level : Level) (s : String) : (⟨level, s⟩ : Note).text = s := by
  simp [text]

@[simp] theorem spellings_append (level : Level) (a b : List Note) :
    spellings level (a ++ b) = spellings level a ++ spellings level b := by
  simp [spellings]

@[simp] theorem texts_append (level : Level) (a b : List Note) :
    texts level (a ++ b) = texts level a ++ texts level b := by
  simp [texts]

@[simp] theorem texts_nil (level : Level) : texts level [] = [] := rfl

theorem anyError_iff (notes : List Note) : anyError notes = true ↔ texts .error notes ≠ [] := by
  induction notes with
  | nil => simp [anyError]
  | cons n ns ih =>
    cases h : decide (n.level = .error) <;> simp_all [anyError, texts]

end Note

/-- A value and the notes made on the way to it. -/
structure Noted (α : Type) where
  value : α
  notes : List Note
  deriving Repr

namespace Noted

variable {α β : Type}

instance : Monad Noted where
  pure a := ⟨a, []⟩
  bind x f := ⟨(f x.value).value, x.notes ++ (f x.value).notes⟩

@[simp] theorem value_pure (a : α) : (pure a : Noted α).value = a := rfl

@[simp] theorem notes_pure (a : α) : (pure a : Noted α).notes = [] := rfl

@[simp] theorem value_bind (x : Noted α) (f : α → Noted β) :
    (x >>= f).value = (f x.value).value := rfl

@[simp] theorem notes_bind (x : Noted α) (f : α → Noted β) :
    (x >>= f).notes = x.notes ++ (f x.value).notes := rfl

theorem ext {x y : Noted α} (hv : x.value = y.value) (hn : x.notes = y.notes) : x = y := by
  cases x
  cases y
  simp_all

instance : LawfulMonad Noted :=
  LawfulMonad.mk' Noted (fun _ => ext rfl (List.append_nil _))
    (fun _ _ => ext rfl (List.nil_append _)) (fun _ _ _ => ext rfl (List.append_assoc ..))

/-- Makes one note. -/
def note (level : Level) (text : CodeText) : Noted Unit := ⟨(), [⟨level, text⟩]⟩

/-- Notes a step. -/
def info (text : String) : Noted Unit := note .info text

/-- Notes a recoverable issue. -/
def warning (text : String) : Noted Unit := note .warning text

/-- Notes an error. -/
def error (text : String) : Noted Unit := note .error text

/-- Whether an error was noted. -/
def hasErrors (x : Noted α) : Bool := Note.anyError x.notes

/-- A computation that is made where nobody keeps notes. -/
def silent (x : Noted α) : Noted α := pure x.value

@[simp] theorem notes_note (level : Level) (text : CodeText) :
    (note level text).notes = [⟨level, text⟩] := rfl

end Noted

end SvgBuilder
