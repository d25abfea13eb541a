import SvgBuilder.Proofs.Transform.Operands

/-!
# The arguments that are printed

A transform is printed with as many arguments as its function has a use for.  A call may have more
numbers than that, and of a rotation only both coordinates of a centre are of use.  So a call that
nothing is noted about is printed with the longest beginning of its numbers that its function can be
printed with, and no number is lost exactly if the function can be printed with all of them.

## Main results

* `arguments_ofCall?`: the arguments of a transform are a beginning of the numbers it was made of.
* `exists_transform_of_unnoted`: a call that nothing is noted about is supported, and all its
  operands are finite numbers.
* `arguments_printed`: what is printed for a list that nothing is noted about.
* `further_numbers_lost`: numbers that are lost without a note.
-/

namespace SvgBuilder

open SvgBuilder.Number SvgBuilder.Text

/-- The numbers between the parentheses of a call. -/
def Call.numbers (call : Call) : List Double := (Transform.readArguments call.arguments).value

namespace Transform

/-! ## What a function is printed with -/

/-- How many arguments a function can be printed with. -/
def argumentCounts (name : String) : List Nat :=
  ([("matrix", [6]), ("translate", [1, 2]), ("scale", [1, 2]), ("rotate", [1, 3]), ("skewX", [1]),
    ("skewY", [1])].lookup name).getD []

/-- How many of some numbers a function is printed with: as many as it can be. -/
def printedCount (name : String) (n : Nat) : Nat :=
  ((argumentCounts name).filter (· ≤ n)).max?.getD 0

/-- The numbers of a call that are printed. -/
def printed (name : String) (numbers : List Double) : List Double :=
  numbers.take (printedCount name numbers.length)

variable {name : String} {numbers : List Double}

theorem printedCount_le (name : String) (n : Nat) : printedCount name n ≤ n := by
  rw [printedCount]
  cases hMax : ((argumentCounts name).filter (· ≤ n)).max? with
  | none => exact Nat.zero_le n
  | some m => simpa using (List.mem_filter.1 (List.max?_mem hMax)).2

/-- The largest number of arguments that does not exceed what is there. -/
theorem printedCount_eq {m n : Nat} (hMem : m ∈ argumentCounts name) (hLe : m ≤ n)
    (hMax : ∀ k ∈ argumentCounts name, k ≤ n → k ≤ m) : printedCount name n = m := by
  have hLargest : ((argumentCounts name).filter (· ≤ n)).max? = some m := by
    rw [List.max?_eq_some_iff]
    refine ⟨List.mem_filter.2 ⟨hMem, by simpa using hLe⟩, fun k hk => ?_⟩
    obtain ⟨hCount, hFits⟩ := List.mem_filter.1 hk
    exact hMax k hCount (by simpa using hFits)
  rw [printedCount, hLargest]
  rfl

theorem printedCount_eq_self_iff {n : Nat} (hn : n ≠ 0) :
    printedCount name n = n ↔ n ∈ argumentCounts name := by
  constructor
  · intro h
    rw [printedCount] at h
    cases hMax : ((argumentCounts name).filter (· ≤ n)).max? with
    | none =>
      rw [hMax] at h
      exact absurd h.symm hn
    | some m =>
      rw [hMax] at h
      obtain rfl : m = n := h
      exact (List.mem_filter.1 (List.max?_mem hMax)).1
  · exact fun hMem => printedCount_eq hMem le_rfl fun k _ hk => hk

/-- Numbers are printed in full exactly if the function can be printed with so many. -/
theorem printed_eq_self_iff (h : numbers ≠ []) :
    printed name numbers = numbers ↔ numbers.length ∈ argumentCounts name := by
  rw [printed, List.take_eq_self_iff,
    ← printedCount_eq_self_iff (mt List.length_eq_zero_iff.1 h)]
  exact ⟨fun hLength => Nat.le_antisymm (printedCount_le _ _) hLength, fun hSame => hSame.ge⟩

theorem printed_of_one (h : argumentCounts name = [1]) (x : Double) (rest : List Double) :
    printed name (x :: rest) = [x] := by
  have hCount : printedCount name (x :: rest).length = 1 :=
    printedCount_eq (by simp [h]) (by simp) (by simp [h])
  rw [printed, hCount]
  rfl

theorem printed_of_two (h : argumentCounts name = [1, 2]) (x : Double) (rest : List Double) :
    printed name (x :: rest) = x :: rest[0]?.toList := by
  cases rest with
  | nil =>
    have hCount : printedCount name [x].length = 1 :=
      printedCount_eq (by simp [h]) (by simp) (by simp [h])
    rw [printed, hCount]
    rfl
  | cons y rest =>
    have hCount : printedCount name (x :: y :: rest).length = 2 :=
      printedCount_eq (by simp [h]) (by simp) (by simp [h])
    rw [printed, hCount]
    rfl

/-- One coordinate of a centre is of no use. -/
theorem printed_rotate (x : Double) (rest : List Double) :
    printed "rotate" (x :: rest) = (rotate x rest[0]? rest[1]?).arguments := by
  match rest with
  | [] => rfl
  | [_] => rfl
  | y :: z :: rest =>
    have hCount : printedCount "rotate" (x :: y :: z :: rest).length = 3 :=
      printedCount_eq (by decide) (by simp) fun k hk _ =>
        (by decide : ∀ k ∈ argumentCounts "rotate", k ≤ 3) k hk
    rw [printed, hCount]
    rfl

/-- A transform has the name of the function, and the arguments that it is printed with are a
beginning of the numbers it was made of. -/
theorem arguments_ofCall? {t : Transform} (h : ofCall? name numbers = some t) :
    t.functionName = name ∧ t.arguments = printed name numbers := by
  cases numbers with
  | nil => exact nomatch h
  | cons x rest =>
    unfold ofCall? at h
    dsimp only at h
    split at h
    · next hName =>
      subst hName
      split at h
      · obtain rfl := Option.some.inj h
        exact ⟨rfl, rfl⟩
      · exact nomatch h
    split at h
    · next hName =>
      obtain rfl := Option.some.inj h
      exact ⟨hName.symm, (printed_of_two (by rw [hName]; rfl) x rest).symm⟩
    split at h
    · next hName =>
      obtain rfl := Option.some.inj h
      exact ⟨hName.symm, (printed_of_two (by rw [hName]; rfl) x rest).symm⟩
    split at h
    · next hName =>
      obtain rfl := Option.some.inj h
      subst hName
      exact ⟨rfl, (printed_rotate x rest).symm⟩
    split at h
    · next hName =>
      obtain rfl := Option.some.inj h
      exact ⟨hName.symm, (printed_of_one (by rw [hName]; rfl) x rest).symm⟩
    split at h
    · next hName =>
      obtain rfl := Option.some.inj h
      exact ⟨hName.symm, (printed_of_one (by rw [hName]; rfl) x rest).symm⟩
    · exact nomatch h

/-! ## Calls that nothing is noted about -/

section Unnoted

variable {strict : Bool} {call : Call}

/-- Operands that nothing is warned of are the numbers that are written. -/
theorem numbers_of_unwarned (h : argumentWarnings call = []) :
    (Operand.ofText call.arguments).map Operand.written? = call.numbers.map some := by
  have hNone : (Operand.ofText call.arguments).filterMap Operand.warning? = [] := by
    have hTexts : argumentWarnings call =
        (Operand.ofText call.arguments).filterMap Operand.warning? := by
      rw [argumentWarnings, readArguments_eq, readOperands, Note.texts_warnings]
    rw [← hTexts, h]
  rw [Call.numbers, readArguments_eq, readOperands, List.map_map]
  refine List.map_congr_left fun o ho => ?_
  have hUnwarned := List.filterMap_eq_nil_iff.1 hNone o ho
  cases hWritten : o.written? with
  | some x =>
    rw [Function.comp_apply, Operand.number, hWritten]
    rfl
  | none =>
    rw [Operand.warning?, hWritten] at hUnwarned
    cases hUnwarned

/-- A call that nothing is noted about is supported, and its operands are numbers. -/
theorem exists_transform_of_unnoted
    (hWarnings : Note.texts .warning (ofCall strict call).notes = [])
    (hErrors : Note.texts .error (ofCall strict call).notes = []) :
    (∃ t, call.transform? = some t) ∧ argumentWarnings call = [] := by
  rw [warnings_ofCall] at hWarnings
  rw [errors_ofCall] at hErrors
  obtain ⟨hArguments, hSubstitution⟩ := List.append_eq_nil_iff.1 hWarnings
  refine ⟨?_, hArguments⟩
  cases h : call.transform? with
  | some t => exact ⟨t, rfl⟩
  | none =>
    have hUnsupported : call.isUnsupported = true := by rw [Call.isUnsupported, h]; rfl
    rw [hUnsupported] at hSubstitution hErrors
    cases strict with
    | true => exact absurd hErrors (List.cons_ne_nil _ _)
    | false => exact absurd hSubstitution (List.cons_ne_nil _ _)

end Unnoted

/-! ## Lists that nothing is noted about -/

/-- What is made of the transforms of a list all of whose calls are supported. -/
theorem map_value_readList {β : Type} {f : Transform → β} {g : Call → β} {strict : Bool} {v : String}
    (hSupported : ∀ call ∈ calls v.toList, ∃ t, call.transform? = some t)
    (h : ∀ call t, call.transform? = some t → f t = g call) :
    (readList strict v).value.map f = (calls v.toList).map g := by
  rw [value_readList, List.map_flatMap, List.map_eq_flatMap]
  refine List.flatMap_congr fun call hCall => ?_
  obtain ⟨t, ht⟩ := hSupported call hCall
  rw [ofCall_of_supported ht, List.map_singleton, h call t ht]

/-- The text of a call with the numbers that are printed. -/
def printedText (call : Call) : String :=
  String.ofList call.name ++ "(" ++
    joined "," ((printed (String.ofList call.name) call.numbers).map Double.plainText) ++ ")"

/-- If reading a transform list notes no warning and no error, then what is printed for it has every
call under its name, with the longest beginning of its numbers that its function can be printed
with.  The numbers are those that are written between the parentheses, in order, and they are
printed in full exactly if the function can be printed with so many. -/
theorem arguments_printed (strict : Bool) (v : String)
    (hWarnings : Note.texts .warning (readList strict v).notes = [])
    (hErrors : Note.texts .error (readList strict v).notes = []) :
    (readList strict v).value.map (fun t => (t.functionName, t.arguments)) =
      (calls v.toList).map (fun call => (String.ofList call.name,
        printed (String.ofList call.name) call.numbers)) ∧
    listText (readList strict v).value = joined " " ((calls v.toList).map printedText) ∧
    ∀ call ∈ calls v.toList,
      (Operand.ofText call.arguments).map Operand.written? = call.numbers.map some ∧
      printed (String.ofList call.name) call.numbers <+: call.numbers ∧
      (printed (String.ofList call.name) call.numbers = call.numbers ↔
        call.numbers.length ∈ argumentCounts (String.ofList call.name)) := by
  rw [texts_readList, List.flatMap_eq_nil_iff] at hWarnings hErrors
  have hUnnoted : ∀ call ∈ calls v.toList,
      (∃ t, call.transform? = some t) ∧ argumentWarnings call = [] :=
    fun call hCall => exists_transform_of_unnoted (hWarnings call hCall) (hErrors call hCall)
  have hSupported := fun call hCall => (hUnnoted call hCall).1
  refine ⟨map_value_readList hSupported fun call t h => ?_, ?_, fun call hCall => ?_⟩
  · obtain ⟨hName, hArguments⟩ := arguments_ofCall? h
    exact Prod.ext hName hArguments
  · rw [listText, map_value_readList (g := printedText) hSupported fun call t h => ?_]
    obtain ⟨hName, hArguments⟩ := arguments_ofCall? h
    rw [text, hName, hArguments, printedText, Call.numbers]
  · exact ⟨numbers_of_unwarned (hUnnoted call hCall).2, List.take_prefix _ _,
      printed_eq_self_iff (readArguments_ne_nil _)⟩

/-- A call with all numbers that its function can be printed with, one with fewer, and blanks. -/
theorem arguments_printed_spaced :
    Note.texts .warning (readList true "matrix(1 0,0 1 -5,6) rotate (7)").notes = [] ∧
      Note.texts .error (readList true "matrix(1 0,0 1 -5,6) rotate (7)").notes = [] ∧
      listText (readList true "matrix(1 0,0 1 -5,6) rotate (7)").value =
        "matrix(1,0,0,1,-5,6) rotate(7)" := by
  have hWarnings : Note.texts .warning (readList true "matrix(1 0,0 1 -5,6) rotate (7)").notes = [] :=
    by decide +kernel
  have hErrors : Note.texts .error (readList true "matrix(1 0,0 1 -5,6) rotate (7)").notes = [] :=
    by decide +kernel
  refine ⟨hWarnings, hErrors, ?_⟩
  rw [(arguments_printed true _ hWarnings hErrors).2.1]
  decide +kernel

/-- The third number of a translation and the second one of a rotation are not printed, and nothing
is noted about them. -/
theorem further_numbers_lost :
    (readList false "translate(1,2,3) rotate(4,5)").notes = [] ∧
      (readList true "translate(1,2,3) rotate(4,5)").notes = [] ∧
      (calls "translate(1,2,3) rotate(4,5)".toList).map Call.numbers =
        [[.ofNat 1, .ofNat 2, .ofNat 3], [.ofNat 4, .ofNat 5]] ∧
      (readList false "translate(1,2,3) rotate(4,5)").value.map arguments =
        [[.ofNat 1, .ofNat 2], [.ofNat 4]] ∧
      listText (readList false "translate(1,2,3) rotate(4,5)").value = "translate(1,2) rotate(4)" ∧
      (readList true "translate(1,2,3) rotate(4,5)").value =
        (readList false "translate(1,2,3) rotate(4,5)").value :=
  ⟨by decide +kernel, by decide +kernel, by decide +kernel, by decide +kernel, by decide +kernel,
    by decide +kernel⟩

end Transform

end SvgBuilder
