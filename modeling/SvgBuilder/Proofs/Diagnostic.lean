import SvgBuilder.Diagnostic

/-!
# Values and logs of noted computations

One equation per operation: what a computation that takes a list item by item returns and notes,
and what it logs.  The log of a computation is the texts of the steps that it notes, without its
warnings and errors.

## Main results

* `Noted.value_mapM`, `Noted.notes_mapM`: a list is taken item by item.
* `Noted.All.bind`, `Noted.All.mapM`: a condition that all notes of the parts meet.
* `Noted.log_bind`: what is logged already stays in front.
-/

namespace SvgBuilder.Noted

open SvgBuilder.Text

variable {α β : Type}

@[simp] theorem value_map (f : α → β) (x : Noted α) : (f <$> x).value = f x.value := rfl

@[simp] theorem notes_map (f : α → β) (x : Noted α) : (f <$> x).notes = x.notes :=
  List.append_nil x.notes

theorem value_mapM (f : α → Noted β) (as : List α) :
    (as.mapM f).value = as.map fun a => (f a).value := by
  induction as with
  | nil => rfl
  | cons a as ih => simp [List.mapM_cons, ih]

theorem notes_mapM (f : α → Noted β) (as : List α) :
    (as.mapM f).notes = as.flatMap fun a => (f a).notes := by
  induction as with
  | nil => rfl
  | cons a as ih => simp [List.mapM_cons, ih]

/-- What is made of every item without a note is made of the list without a note. -/
theorem mapM_map_eq {γ : Type} {f : β → Noted γ} {g : α → β} {k : α → γ} {as : List α}
    (h : ∀ a ∈ as, f (g a) = ⟨k a, []⟩) : (as.map g).mapM f = ⟨as.map k, []⟩ := by
  refine ext ?_ ?_
  · rw [value_mapM, List.map_map]
    exact List.map_congr_left fun a ha => congrArg value (h a ha)
  · rw [notes_mapM, List.flatMap_eq_nil_iff]
    intro b hb
    obtain ⟨a, ha, rfl⟩ := List.mem_map.1 hb
    exact congrArg notes (h a ha)

/-- Whether all notes of a computation meet a condition. -/
def All (P : Note → Prop) (x : Noted α) : Prop := ∀ n ∈ x.notes, P n

namespace All

variable {P : Note → Prop}

theorem pure (a : α) : All P (Pure.pure a) := fun _ hn => absurd hn List.not_mem_nil

theorem note {level : Level} {text : CodeText} (h : P ⟨level, text⟩) : All P (note level text) := by
  intro n hn
  rwa [List.mem_singleton.1 hn]

theorem bind {x : Noted α} {f : α → Noted β} (hx : All P x) (hf : ∀ a, All P (f a)) :
    All P (x >>= f) := by
  intro n hn
  rw [notes_bind] at hn
  rcases List.mem_append.1 hn with hn | hn
  · exact hx n hn
  · exact hf x.value n hn

theorem mapM {f : α → Noted β} (hf : ∀ a, All P (f a)) (as : List α) : All P (as.mapM f) := by
  intro n hn
  rw [notes_mapM] at hn
  obtain ⟨a, -, hn⟩ := List.mem_flatMap.1 hn
  exact hf a n hn

end All

/-- The log of a computation: the texts of the steps that it notes. -/
def log (x : Noted α) : List String := Note.texts .info x.notes

@[simp] theorem log_pure (a : α) : (pure a : Noted α).log = [] := rfl

@[simp] theorem log_bind (x : Noted α) (f : α → Noted β) :
    (x >>= f).log = x.log ++ (f x.value).log := by
  simp [log]

@[simp] theorem log_map (f : α → β) (x : Noted α) : (f <$> x).log = x.log := by
  simp [log]

@[simp] theorem log_info (text : String) : (info text).log = [text] := by
  simp [log, info, Note.texts]

@[simp] theorem log_warning (text : String) : (warning text).log = [] := rfl

@[simp] theorem log_error (text : String) : (error text).log = [] := rfl

theorem log_mapM (f : α → Noted β) (as : List α) :
    (as.mapM f).log = as.flatMap fun a => (f a).log := by
  induction as with
  | nil => rfl
  | cons a as ih => simp [List.mapM_cons, ih]

/-- A list that is converted without a log item by item is converted without a log. -/
theorem log_mapM_eq_nil {f : α → Noted β} (hf : ∀ a, (f a).log = []) (as : List α) :
    (as.mapM f).log = [] := by
  rw [log_mapM]
  exact List.flatMap_eq_nil_iff.2 fun a _ => hf a

end SvgBuilder.Noted
