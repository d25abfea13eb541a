import SvgBuilder.Proofs.Transform.RoundTrip
import SvgBuilder.Proofs.Transform.Strictness

/-!
# The operands of a call

The text between the parentheses of a call is a list of operands: the pieces between its commas are
trimmed, an empty piece is one operand that is missing, and every other piece has one operand for
each of its words.  An operand stands for one number, and it is warned of exactly if that number is
not the one that is written.

Every text has an operand.  So a supported function always has its first argument, and taking it
cannot fail.

## Main results

* `readArguments_eq`: one number for every operand, and one warning for every operand that is
  missing or is no finite number.
* `taken?_nil_eq_none_iff`: without arguments the first one cannot be taken.
* `taken?_eq_some`: taking the first argument of a call cannot fail.
* `readList_total`: reading transform lists always has a result, and its numbers are finite.
-/

namespace SvgBuilder

open SvgBuilder.Number SvgBuilder.Text

namespace Transform

/-! ## Operands -/

/-- What stands for one number among the arguments of a call. -/
inductive Operand where
  /-- Nothing between two commas. -/
  | missing
  /-- A word that should be a number. -/
  | token (text : List Char)
  deriving DecidableEq, Repr

namespace Operand

/-- The operands of a piece between two commas. -/
def ofPiece (piece : List Char) : List Operand :=
  if trim piece = [] then [.missing] else (words (trim piece)).map .token

/-- The operands between the parentheses of a call. -/
def ofText (s : List Char) : List Operand := (splitAt ',' s).flatMap ofPiece

/-- The finite number that is written. -/
def written? : Operand → Option Double
  | .missing => none
  | .token text => (readDouble? text).filter Double.isFinite

/-- The number that the operand stands for. -/
def number (o : Operand) : Double := o.written?.getD .zero

/-- What is wrong with an operand that no finite number is written for. -/
def complaint : Operand → String
  | .missing => "Missing transform argument, using 0"
  | .token text => "Invalid transform argument '" ++ String.ofList text ++ "', using 0"

/-- The warning about an operand, if there is one. -/
def warning? (o : Operand) : Option String :=
  if o.written?.isSome then none else some o.complaint

theorem ofPiece_ne_nil (piece : List Char) : ofPiece piece ≠ [] := by
  rw [ofPiece]
  split
  · exact List.cons_ne_nil _ _
  · next h =>
    rw [words_trim, ne_eq, List.map_eq_nil_iff, words_eq_nil_iff]
    exact h

/-- There is an operand in every text. -/
theorem ofText_ne_nil (s : List Char) : ofText s ≠ [] := by
  cases hPieces : splitAt ',' s with
  | nil => exact absurd hPieces (splitAt_ne_nil ',' s)
  | cons piece pieces =>
    rw [ofText, hPieces, List.flatMap_cons]
    exact List.append_ne_nil_of_left_ne_nil (ofPiece_ne_nil piece) _

end Operand

/-! ## What is read for them -/

open Operand

/-- What a reader returns and warns of for some operands. -/
def readOperands (operands : List Operand) : Noted (List Double) :=
  ⟨operands.map number, (operands.filterMap warning?).map fun (text : String) => ⟨.warning, text⟩⟩

theorem readNumber_eq (token : List Char) : readNumber token =
    ⟨(Operand.token token).number,
      (Operand.token token).warning?.toList.map fun (text : String) => ⟨.warning, text⟩⟩ := by
  unfold readNumber
  cases h : (readDouble? token).filter Double.isFinite with
  | some x =>
    have hWritten : (Operand.token token).written? = some x := h
    rw [number, warning?, hWritten]
    rfl
  | none =>
    have hWritten : (Operand.token token).written? = none := h
    rw [number, warning?, hWritten]
    rfl

theorem readTokens_eq (tokens : List (List Char)) :
    tokens.mapM readNumber = readOperands (tokens.map .token) := by
  refine Noted.ext ?_ ?_
  · rw [Noted.value_mapM, readOperands, List.map_map]
    exact List.map_congr_left fun token _ => by rw [readNumber_eq]; rfl
  · rw [Noted.notes_mapM, readOperands, List.filterMap_map, List.filterMap_eq_flatMap_toList,
      List.map_flatMap]
    exact List.flatMap_congr fun token _ => by rw [readNumber_eq]; rfl

/-- A piece that is trimmed to nothing has no words, so both ways to look for one agree. -/
theorem readPiece_eq (piece : List Char) : readPiece piece = readOperands (ofPiece piece) := by
  unfold readPiece
  rw [ofPiece, words_trim]
  cases hWords : words piece with
  | nil =>
    rw [if_pos (words_eq_nil_iff.1 hWords)]
    rfl
  | cons token tokens =>
    have hTrim : trim piece ≠ [] := by
      rw [ne_eq, ← words_eq_nil_iff, hWords]
      exact List.cons_ne_nil _ _
    rw [if_neg hTrim]
    exact readTokens_eq (token :: tokens)

/-- Every operand gives one number, and one warning if no finite number is written for it. -/
theorem readArguments_eq (s : List Char) : readArguments s = readOperands (ofText s) := by
  refine Noted.ext ?_ ?_
  · rw [readArguments, Noted.value_bind, Noted.value_mapM, Noted.value_pure, readOperands, ofText,
      List.map_flatMap, List.flatMap_def]
    exact congrArg List.flatten (List.map_congr_left fun piece _ => by rw [readPiece_eq]; rfl)
  · rw [readArguments, Noted.notes_bind, Noted.notes_mapM, Noted.notes_pure, List.append_nil]
    show _ = ((ofText s).filterMap warning?).map _
    rw [ofText, List.filterMap_flatMap, List.map_flatMap]
    exact List.flatMap_congr fun piece _ => by rw [readPiece_eq]; rfl

/-! ## The first argument -/

/-- The function with a name applied to arguments of which the first one is taken where it is
needed.  Taking it has no result if there is none; what that result would be is `none` for a
function that is not supported. -/
def taken? (name : String) (arguments : List Double) : Option (Option Transform) :=
  let second := arguments[1]?
  let third := arguments[2]?
  if name = "matrix" then
    some (match arguments with
      | [a, b, c, d, e, f] => some (.matrix a b c d e f)
      | _ => none)
  else if name = "translate" then arguments[0]?.map fun x => some (.translate x second)
  else if name = "scale" then arguments[0]?.map fun x => some (.scale x second)
  else if name = "rotate" then arguments[0]?.map fun x => some (.rotate x second third)
  else if name = "skewX" then arguments[0]?.map fun x => some (.skewX x)
  else if name = "skewY" then arguments[0]?.map fun x => some (.skewY x)
  else some none

/-- Without arguments the first one cannot be taken. -/
theorem taken?_nil_eq_none_iff (name : String) :
    taken? name [] = none ↔ name ∈ ["translate", "scale", "rotate", "skewX", "skewY"] := by
  unfold taken?
  split_ifs <;> simp_all

/-- Where there is an argument, taking the first one does not fail. -/
theorem taken?_eq_some (name : String) {arguments : List Double} (h : arguments ≠ []) :
    taken? name arguments = some (ofCall? name arguments) := by
  cases arguments with
  | nil => exact absurd rfl h
  | cons first rest =>
    unfold taken? ofCall?
    split_ifs
    · match rest with
      | [] | [_] | [_, _] | [_, _, _] | [_, _, _, _] | [_, _, _, _, _] => rfl
      | _ :: _ :: _ :: _ :: _ :: _ :: _ => rfl
    all_goals rfl

theorem readArguments_ne_nil (s : List Char) : (readArguments s).value ≠ [] := by
  rw [readArguments_eq, readOperands, ne_eq, List.map_eq_nil_iff]
  exact ofText_ne_nil s

/-! ## Transform lists -/

/-- Reading a transform list always has a result: whatever stands between the parentheses of a call,
there is an argument, so that the first one can be taken, and what is then made of the call is what
the reader makes of it.  All numbers of the result are finite, also those that are not written.  It
is the same where nobody keeps notes.  Any text between parentheses is read operand by operand, each
of which gives one number and is warned of, in order, exactly if no finite number is written for
it. -/
theorem readList_total (strict : Bool) (v : String) :
    (∀ call ∈ calls v.toList,
      taken? (String.ofList call.name) (readArguments call.arguments).value =
        some call.transform?) ∧
    (readList strict v).value =
      (calls v.toList).flatMap (fun call =>
        match call.transform? with
        | some t => [t]
        | none => if strict then [] else [placeholder]) ∧
    (∀ t ∈ (readList strict v).value, ∀ x ∈ t.numbers, x.isFinite = true) ∧
    (readList strict v).silent = ⟨(readList strict v).value, []⟩ ∧
    ∀ s : List Char,
      Operand.ofText s ≠ [] ∧
      (readArguments s).value = (Operand.ofText s).map Operand.number ∧
      (readArguments s).notes =
        ((Operand.ofText s).filterMap Operand.warning?).map
          fun (text : String) => ⟨.warning, text⟩ := by
  refine ⟨fun call _ => taken?_eq_some _ (readArguments_ne_nil _), ?_,
    isFinite_numbers_of_mem_readList, rfl, fun s => ⟨ofText_ne_nil s, ?_, ?_⟩⟩
  · rw [value_readList]
    refine List.flatMap_congr fun call _ => ?_
    cases h : call.transform? with
    | some t => rw [ofCall_of_supported h]
    | none => rw [ofCall_of_unsupported (by rw [Call.isUnsupported, h]; rfl)]
  · rw [readArguments_eq, readOperands]
  · rw [readArguments_eq, readOperands]

/-- A number that is too large, a word that is none, an operand that is missing, a blank that is not
ASCII, a centre of which one coordinate is missing, and a call that is not closed. -/
def brokenList : String := "scale(1e999,x\u3000-2) rotate(,3) skewX()) matrix(1"

theorem readList_total_brokenList :
    (calls brokenList.toList).map (fun call => String.ofList call.text) =
        ["scale(1e999,x\u3000-2)", "rotate(,3)", "skewX()"] ∧
      (∀ call ∈ calls brokenList.toList,
        taken? (String.ofList call.name) (readArguments call.arguments).value =
          some call.transform?) ∧
      (readList true brokenList).value = [
        .scale .zero (some .zero), .rotate .zero (some (.ofNat 3)) none, .skewX .zero] ∧
      (∀ t ∈ (readList true brokenList).value, ∀ x ∈ t.numbers, x.isFinite = true) ∧
      Operand.ofText "1e999,x\u3000-2".toList =
        [.token "1e999".toList, .token ['x'], .token ['-', '2']] :=
  have hTotal := readList_total true brokenList
  ⟨by decide +kernel, hTotal.1, by decide +kernel, hTotal.2.2.1, by decide +kernel⟩

end Transform

end SvgBuilder
