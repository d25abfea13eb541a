import Mathlib.Data.List.Forall2
import SvgBuilder.Proofs.Diagnostic
import SvgBuilder.Transform.Reader

/-!
# Strict and compatible reading of transform lists

Both ways of reading a transform list take the same calls with the same arguments.  They part where
a call is not supported: the compatible reader puts a translation by zero in its place and warns,
the strict one leaves the place out and notes an error.  A translation by zero that is written in
the list is a supported call, and both readers keep it.

So the compatible reader has one transform for every call, and the calls that are not supported are
positions of its result.  Everything that the two readers do differently is said of these positions.

## Main results

* `value_readList_compatible`, `value_readList_strict`: what the two readers return.
* `warnings_readList_strict`: what the strict reader warns of.
* `strict_differs_at_unsupported`: the two readers differ at the calls that are not supported only.
-/

namespace SvgBuilder

open SvgBuilder.Number SvgBuilder.Text

/-! ## Positions in a list -/

section Positions

variable {α β : Type}

/-- A list without the members at some positions. -/
def without (positions : List Nat) (as : List α) : List α :=
  (as.zipIdx.filter (·.2 ∉ positions)).map (·.1)

/-- Leaving out the positions that a condition holds at leaves the members that it fails for. -/
theorem without_findIdxs (p : α → Bool) (f : α → β) (as : List α) :
    without (as.findIdxs p) (as.map f) = (as.filter fun a => !p a).map f := by
  have hKept : ∀ e ∈ as.zipIdx, decide (e.2 ∉ as.findIdxs p) = !p e.1 := by
    intro e he
    obtain ⟨hLt, hGet⟩ := List.getElem?_eq_some_iff.1 (List.mem_zipIdx_iff_getElem?.1 he)
    have hMem : e.2 ∈ as.findIdxs p ↔ p e.1 = true := by
      rw [List.mem_findIdxs_iff_pos_getElem hLt, hGet]
    simp [hMem]
  calc without (as.findIdxs p) (as.map f)
      = ((as.zipIdx.filter fun e => decide (e.2 ∉ as.findIdxs p)).map (·.1)).map f := by
        simp [without, List.zipIdx_map, List.filter_map, Function.comp_def]
    _ = ((as.zipIdx.filter fun e => !p e.1).map (·.1)).map f := by
        rw [List.filter_congr hKept]
    _ = ((as.zipIdx.map (·.1)).filter fun a => !p a).map f := by
        rw [List.filter_map]
        rfl
    _ = (as.filter fun a => !p a).map f := by
        rw [List.zipIdx_map_fst]

/-- What is made of the members that a condition holds for belongs to their positions, in order. -/
theorem forall₂_findIdxs {R : Nat → β → Prop} {p : α → Bool} {g : α → β} {as : List α}
    (start : Nat) (h : ∀ i a, as[i]? = some a → p a = true → R (start + i) (g a)) :
    List.Forall₂ R (as.findIdxs p start) ((as.filter p).map g) := by
  induction as generalizing start with
  | nil => exact .nil
  | cons a as ih =>
    have hRest : List.Forall₂ R (as.findIdxs p (start + 1)) ((as.filter p).map g) := by
      apply ih
      intro i b hb hp
      rw [Nat.add_right_comm, Nat.add_assoc]
      exact h (i + 1) b hb hp
    by_cases hp : p a = true
    · have hFirst : R start (g a) := h 0 a rfl hp
      rw [List.findIdxs_cons, if_pos hp, List.filter_cons_of_pos hp, List.map_cons]
      exact .cons hFirst hRest
    · rw [List.findIdxs_cons, if_neg hp, List.filter_cons_of_neg hp]
      exact hRest

end Positions

/-! ## Texts of notes -/

namespace Note

theorem texts_flatMap {α : Type} (level : Level) (f : α → List Note) (as : List α) :
    texts level (as.flatMap f) = as.flatMap fun a => texts level (f a) := by
  induction as with
  | nil => rfl
  | cons a as ih => simp [ih]

theorem texts_eq_nil {level : Level} {notes : List Note} (h : ∀ n ∈ notes, n.level ≠ level) :
    texts level notes = [] := by
  have hNone : notes.filter (·.level = level) = [] := List.filter_eq_nil_iff.2 (by simpa using h)
  rw [texts, hNone, List.map_nil]

theorem texts_warnings (warnings : List String) :
    texts .warning (warnings.map fun (text : String) => ⟨.warning, text⟩) = warnings := by
  induction warnings with
  | nil => rfl
  | cons text warnings ih => simpa [texts] using ih

@[simp] theorem texts_singleton (level : Level) (text : String) :
    texts level [⟨level, text⟩] = [text] := by
  simp [texts]

end Note

/-! ## What a call stands for -/

open Transform in
/-- The transform that a call stands for, if it is supported. -/
def Call.transform? (call : Call) : Option Transform :=
  ofCall? (String.ofList call.name) (readArguments call.arguments).value

/-- Whether a call is not supported. -/
def Call.isUnsupported (call : Call) : Bool := call.transform?.isNone

/-- What the strict reader notes about a call that is not supported. -/
def Call.unsupportedError (call : Call) : String :=
  "Unsupported transform function: " ++ String.ofList call.text

/-- What the end of a warning says about a call that is replaced. -/
def substitutionEnding : String := "substituting translate(0)"

/-- What the compatible reader warns about a call that is not supported. -/
def Call.substitutionWarning (call : Call) : String :=
  call.unsupportedError ++ ", substituting translate(0)"

/-- Whether a warning says that a call is replaced. -/
def isSubstitution (warning : String) : Bool :=
  substitutionEnding.toList.isSuffixOf warning.toList

namespace Transform

theorem isSubstitution_substitutionWarning (call : Call) :
    isSubstitution call.substitutionWarning = true := by
  have hEnding : substitutionEnding.toList <:+ ", substituting translate(0)".toList := by decide
  rw [isSubstitution, List.isSuffixOf_iff_suffix, Call.substitutionWarning, String.toList_append]
  exact hEnding.trans (List.suffix_append _ _)

/-- The warnings about arguments end with the zero that is taken instead. -/
theorem isSubstitution_append_zero (s : String) : isSubstitution (s ++ "0") = false := by
  rw [isSubstitution, Bool.eq_false_iff, ne_eq, List.isSuffixOf_iff_suffix, String.toList_append]
  rintro ⟨t, ht⟩
  have hEnding : substitutionEnding.toList.getLast? = some ')' := by decide
  have hZero : "0".toList.getLast? = some '0' := by decide
  have hLast := congrArg List.getLast? ht
  rw [List.getLast?_append, List.getLast?_append, hEnding, hZero] at hLast
  exact absurd (Option.some.inj hLast) (by decide)

/-! ## What the readers note -/

/-- Whether a note is a warning that no call is replaced by. -/
def IsArgumentWarning (n : Note) : Prop := n.level = .warning ∧ isSubstitution n.text = false

theorem allArgumentWarnings_readNumber (token : List Char) :
    (readNumber token).All IsArgumentWarning := by
  unfold readNumber
  split
  · exact Noted.All.pure _
  · refine (Noted.All.note ⟨rfl, ?_⟩).bind fun _ => Noted.All.pure _
    have hText : "', using 0" = "', using " ++ "0" := by decide
    rw [Note.text_mk, hText, ← String.append_assoc]
    exact isSubstitution_append_zero _

theorem allArgumentWarnings_readPiece (piece : List Char) :
    (readPiece piece).All IsArgumentWarning := by
  unfold readPiece
  split
  · refine (Noted.All.note ⟨rfl, ?_⟩).bind fun _ => Noted.All.pure _
    rw [Note.text_mk]
    exact isSubstitution_append_zero "Missing transform argument, using "
  · exact Noted.All.mapM allArgumentWarnings_readNumber _

theorem allArgumentWarnings_readArguments (s : List Char) :
    (readArguments s).All IsArgumentWarning :=
  (Noted.All.mapM allArgumentWarnings_readPiece _).bind fun _ => Noted.All.pure _

/-- What is noted about a call that is not supported. -/
def unsupportedNote (strict : Bool) (call : Call) : Note :=
  if strict then ⟨.error, call.unsupportedError⟩ else ⟨.warning, call.substitutionWarning⟩

theorem ofCall_of_unsupported {call : Call} (h : call.isUnsupported = true) (strict : Bool) :
    ofCall strict call = ⟨if strict then [] else [placeholder],
      (readArguments call.arguments).notes ++ [unsupportedNote strict call]⟩ := by
  have hNone : ofCall? (String.ofList call.name) (readArguments call.arguments).value = none :=
    Option.isNone_iff_eq_none.1 h
  unfold ofCall
  refine Noted.ext ?_ ?_
  · rw [Noted.value_bind, hNone]
    cases strict <;> rfl
  · simp only [Noted.notes_bind, hNone]
    cases strict <;> rfl

theorem ofCall_of_supported {call : Call} {t : Transform} (h : call.transform? = some t)
    (strict : Bool) : ofCall strict call = ⟨[t], (readArguments call.arguments).notes⟩ := by
  have hSome : ofCall? (String.ofList call.name) (readArguments call.arguments).value = some t := h
  unfold ofCall
  refine Noted.ext ?_ ?_
  · rw [Noted.value_bind, hSome]
    rfl
  · rw [Noted.notes_bind, hSome]
    exact List.append_nil _

/-! ## What is noted about one call -/

/-- The warnings about the arguments of a call. -/
def argumentWarnings (call : Call) : List String :=
  Note.texts .warning (readArguments call.arguments).notes

theorem not_isSubstitution_of_mem {call : Call} :
    ∀ text ∈ argumentWarnings call, isSubstitution text = false := by
  intro text hText
  obtain ⟨n, hn, rfl⟩ := List.mem_map.1 hText
  exact (allArgumentWarnings_readArguments _ n (List.mem_filter.1 hn).1).2

theorem errors_readArguments (s : List Char) : Note.texts .error (readArguments s).notes = [] := by
  apply Note.texts_eq_nil
  intro n hn
  rw [(allArgumentWarnings_readArguments s n hn).1]
  decide

theorem errors_ofCall (strict : Bool) (call : Call) :
    Note.texts .error (ofCall strict call).notes =
      if strict && call.isUnsupported then [call.unsupportedError] else [] := by
  cases h : call.transform? with
  | some t =>
    have hSupported : call.isUnsupported = false := by rw [Call.isUnsupported, h]; rfl
    rw [ofCall_of_supported h, errors_readArguments, hSupported, Bool.and_false]
    rfl
  | none =>
    have hUnsupported : call.isUnsupported = true := by rw [Call.isUnsupported, h]; rfl
    rw [ofCall_of_unsupported hUnsupported, Note.texts_append, errors_readArguments, hUnsupported]
    cases strict with
    | true => exact Note.texts_singleton .error call.unsupportedError
    | false => rfl

theorem warnings_ofCall (strict : Bool) (call : Call) :
    Note.texts .warning (ofCall strict call).notes = argumentWarnings call ++
      if !strict && call.isUnsupported then [call.substitutionWarning] else [] := by
  cases h : call.transform? with
  | some t =>
    have hSupported : call.isUnsupported = false := by rw [Call.isUnsupported, h]; rfl
    rw [ofCall_of_supported h, hSupported, Bool.and_false]
    exact (List.append_nil _).symm
  | none =>
    have hUnsupported : call.isUnsupported = true := by rw [Call.isUnsupported, h]; rfl
    rw [ofCall_of_unsupported hUnsupported, Note.texts_append, hUnsupported]
    cases strict with
    | true => rfl
    | false =>
      exact congrArg (argumentWarnings call ++ ·)
        (Note.texts_singleton .warning call.substitutionWarning)

/-! ## What the two readers return and note -/

theorem flatMap_singleton_if {α β : Type} (p : α → Bool) (g : α → β) (as : List α) :
    (as.flatMap fun a => if p a then [g a] else []) = (as.filter p).map g := by
  induction as with
  | nil => rfl
  | cons a as ih =>
    by_cases hp : p a = true
    · simp [hp, ih]
    · simp [hp, ih]

theorem value_readList (strict : Bool) (v : String) :
    (readList strict v).value = (calls v.toList).flatMap fun call => (ofCall strict call).value := by
  rw [readList, Noted.value_bind, Noted.value_mapM, Noted.value_pure, List.flatMap_def]

theorem texts_readList (level : Level) (strict : Bool) (v : String) :
    Note.texts level (readList strict v).notes =
      (calls v.toList).flatMap fun call => Note.texts level (ofCall strict call).notes := by
  rw [readList, Noted.notes_bind, Noted.notes_mapM, Noted.notes_pure, List.append_nil,
    Note.texts_flatMap]

/-- The compatible reader has a transform for every call. -/
theorem value_readList_compatible (v : String) :
    (readList false v).value =
      (calls v.toList).map fun call => call.transform?.getD placeholder := by
  rw [value_readList, List.map_eq_flatMap]
  apply List.flatMap_congr
  intro call _
  cases h : call.transform? with
  | some t => rw [ofCall_of_supported h]; rfl
  | none =>
    rw [ofCall_of_unsupported (by rw [Call.isUnsupported, h]; rfl)]
    rfl

/-- The strict reader has a transform for every call that is supported. -/
theorem value_readList_strict (v : String) :
    (readList true v).value = ((calls v.toList).filter fun call => !call.isUnsupported).map
      fun call => call.transform?.getD placeholder := by
  rw [value_readList, ← flatMap_singleton_if]
  apply List.flatMap_congr
  intro call _
  cases h : call.transform? with
  | some t =>
    have hSupported : call.isUnsupported = false := by rw [Call.isUnsupported, h]; rfl
    rw [ofCall_of_supported h, hSupported]
    rfl
  | none =>
    have hUnsupported : call.isUnsupported = true := by rw [Call.isUnsupported, h]; rfl
    rw [ofCall_of_unsupported hUnsupported, hUnsupported]
    rfl

theorem errors_readList_compatible (v : String) :
    Note.texts .error (readList false v).notes = [] := by
  rw [texts_readList, List.flatMap_eq_nil_iff]
  exact fun call _ => errors_ofCall false call

theorem errors_readList_strict (v : String) :
    Note.texts .error (readList true v).notes =
      ((calls v.toList).filter Call.isUnsupported).map Call.unsupportedError := by
  rw [texts_readList, ← flatMap_singleton_if]
  exact List.flatMap_congr fun call _ => errors_ofCall true call

/-- The strict reader warns of the arguments, as the other one does. -/
theorem warnings_readList_strict (v : String) :
    Note.texts .warning (readList true v).notes =
      (Note.texts .warning (readList false v).notes).filter fun text => !isSubstitution text := by
  rw [texts_readList, texts_readList, List.filter_flatMap]
  apply List.flatMap_congr
  intro call _
  have hKept : (argumentWarnings call).filter (fun text => !isSubstitution text) =
      argumentWarnings call :=
    List.filter_eq_self.2 fun text hText => by rw [not_isSubstitution_of_mem text hText]; rfl
  rw [warnings_ofCall, warnings_ofCall, List.filter_append, hKept]
  cases call.isUnsupported with
  | false => rfl
  | true => simp [isSubstitution_substitutionWarning]

theorem substitutions_readList_compatible (v : String) :
    (Note.texts .warning (readList false v).notes).filter isSubstitution =
      ((calls v.toList).filter Call.isUnsupported).map Call.substitutionWarning := by
  rw [texts_readList, List.filter_flatMap, ← flatMap_singleton_if]
  apply List.flatMap_congr
  intro call _
  have hNone : (argumentWarnings call).filter isSubstitution = [] :=
    List.filter_eq_nil_iff.2 fun text hText => by simp [not_isSubstitution_of_mem text hText]
  rw [warnings_ofCall, List.filter_append, hNone, List.nil_append]
  cases call.isUnsupported with
  | false => rfl
  | true => simp [isSubstitution_substitutionWarning]

/-! ## Where the two readers differ -/

theorem mem_findIdxs_isUnsupported {cs : List Call} {i : Nat} :
    i ∈ cs.findIdxs Call.isUnsupported ↔ ∃ call, cs[i]? = some call ∧ call.transform? = none := by
  rw [List.mem_findIdxs_iff_exists_getElem_pos]
  constructor
  · rintro ⟨hLt, hUnsupported⟩
    exact ⟨cs[i], List.getElem?_eq_getElem hLt, Option.isNone_iff_eq_none.1 hUnsupported⟩
  · rintro ⟨call, hCall, hNone⟩
    obtain ⟨hLt, rfl⟩ := List.getElem?_eq_some_iff.1 hCall
    exact ⟨hLt, Option.isNone_iff_eq_none.2 hNone⟩

/-- The two readers differ at the calls that are not supported and nowhere else.  These calls are
positions of what the compatible reader returns, where it has the translation by zero.  The strict
reader returns the rest and notes one error for each of them, in order.  It warns of the same
arguments; the compatible reader notes no error and warns once more for each of these calls.  What
the context already holds makes no difference, and neither does it that there is none. -/
theorem strict_differs_at_unsupported (v : String) :
    (∃ positions : List Nat, positions.Pairwise (· < ·) ∧
      (∀ i, i ∈ positions ↔ ∃ call, (calls v.toList)[i]? = some call ∧ call.transform? = none) ∧
      (∀ i ∈ positions, (readList false v).value[i]? = some (.translate .zero none)) ∧
      (readList true v).value = without positions (readList false v).value ∧
      List.Forall₂
        (fun i text => ∃ call, (calls v.toList)[i]? = some call ∧
          text = "Unsupported transform function: " ++ String.ofList call.text)
        positions (Note.texts .error (readList true v).notes) ∧
      Note.texts .error (readList false v).notes = [] ∧
      Note.texts .warning (readList true v).notes =
        (Note.texts .warning (readList false v).notes).filter (fun text => !isSubstitution text) ∧
      List.Forall₂
        (fun i text => ∃ call, (calls v.toList)[i]? = some call ∧
          text = "Unsupported transform function: " ++ String.ofList call.text ++
            ", substituting translate(0)")
        positions ((Note.texts .warning (readList false v).notes).filter isSubstitution)) ∧
    ∀ strict, (readList strict v).silent = ⟨(readList strict v).value, []⟩ ∧
      ∀ (context : Noted Unit) (level : Level),
        (context >>= fun _ => readList strict v).value = (readList strict v).value ∧
        Note.texts level (context >>= fun _ => readList strict v).notes =
          Note.texts level context.notes ++ Note.texts level (readList strict v).notes := by
  constructor
  · refine ⟨(calls v.toList).findIdxs Call.isUnsupported, List.pairwise_findIdxs, ?_, ?_, ?_, ?_,
      errors_readList_compatible v, warnings_readList_strict v, ?_⟩
    · intro i
      rw [mem_findIdxs_isUnsupported]
    · intro i hi
      obtain ⟨call, hCall, hNone⟩ := mem_findIdxs_isUnsupported.1 hi
      rw [value_readList_compatible, List.getElem?_map, hCall, Option.map_some, hNone]
      rfl
    · rw [value_readList_strict, value_readList_compatible, without_findIdxs]
    · rw [errors_readList_strict]
      exact forall₂_findIdxs 0 fun i call hCall _ => ⟨call, by rwa [Nat.zero_add], rfl⟩
    · rw [substitutions_readList_compatible]
      exact forall₂_findIdxs 0 fun i call hCall _ => ⟨call, by rwa [Nat.zero_add], rfl⟩
  · intro strict
    refine ⟨rfl, fun context level => ⟨rfl, ?_⟩⟩
    rw [Noted.notes_bind, Note.texts_append]

end Transform

end SvgBuilder
