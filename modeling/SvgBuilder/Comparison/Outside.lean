import SvgBuilder.Text.Blank
import SvgBuilder.Text.Search

/-!
# What stands outside of the root

Before the root element of a document there may be marks, declarations, comments, processing
instructions and blanks, and behind it all of these but marks and declarations.  `withoutProlog`
and `withoutEpilog` cut them off a text without reading it as a document.

## Main results

* `length_lt_of_behindMisc?`: an item takes at least one character.
* `withoutEpilog_nil`: nothing is cut off nothing.
-/

namespace SvgBuilder.Comparison

open SvgBuilder.Text

/-- The text behind a comment, a processing instruction or a blank that it begins with. -/
def behindMisc? : List Char → Option (List Char)
  | [] => none
  | c :: s =>
    if isBlank c then some s
    else
      match behind? "<?" (c :: s) with
      | some t => (upTo ['?', '>'] t).map (·.2)
      | none =>
        match behind? "<!--" (c :: s) with
        | some t => (upTo ['-', '-', '>'] t).map (·.2)
        | none => none

/-- The text behind the first closing bracket that blanks and the end of a declaration follow. -/
def behindSubset? : List Char → Option (List Char)
  | [] => none
  | c :: s =>
    if c = ']' then
      match s.dropWhile isBlank with
      | '>' :: rest => some rest
      | _ => behindSubset? s
    else behindSubset? s

/-- The text behind a document type declaration that it begins with. -/
def behindDoctype? (s : List Char) : Option (List Char) :=
  match (behind? "<!DOCTYPE" s).map (·.dropWhile fun c => c ≠ '>' && c ≠ '[') with
  | some ('>' :: rest) => some rest
  | some ('[' :: t) => behindSubset? t
  | _ => none

/-- The text behind one item of a prolog that it begins with. -/
def behindPrologItem? (s : List Char) : Option (List Char) :=
  match s with
  | '\uFEFF' :: rest => some rest
  | _ => (behindDoctype? s).orElse fun _ => behindMisc? s

/-! ## Items are not empty -/

theorem length_lt_of_behind? {opening : String} {s t : List Char} (h : behind? opening s = some t)
    (ho : opening.toList ≠ []) : t.length < s.length := by
  rw [behind?_eq_some_iff.1 h, List.length_append]
  have := List.length_pos_iff.2 ho
  omega

theorem length_le_of_upTo {stop s : List Char} {r : List Char × List Char}
    (h : upTo stop s = some r) : r.2.length ≤ s.length := by
  have := congrArg List.length (upTo_append (show upTo stop s = some (r.1, r.2) from h))
  simp only [List.length_append] at this
  omega

theorem length_lt_of_behindMisc? {s t : List Char} (h : behindMisc? s = some t) :
    t.length < s.length := by
  cases s with
  | nil => exact nomatch h
  | cons c s =>
    simp only [behindMisc?] at h
    split at h
    · obtain rfl := Option.some.inj h
      simp
    · split at h
      · next u hu =>
        obtain ⟨r, hr, rfl⟩ := Option.map_eq_some_iff.1 h
        exact Nat.lt_of_le_of_lt (length_le_of_upTo hr) (length_lt_of_behind? hu (by decide))
      · split at h
        · next u hu =>
          obtain ⟨r, hr, rfl⟩ := Option.map_eq_some_iff.1 h
          exact Nat.lt_of_le_of_lt (length_le_of_upTo hr) (length_lt_of_behind? hu (by decide))
        · exact nomatch h

theorem length_dropWhile_le (p : Char → Bool) (s : List Char) :
    (s.dropWhile p).length ≤ s.length := (List.dropWhile_suffix p).length_le

theorem length_le_of_behindSubset? {s t : List Char} (h : behindSubset? s = some t) :
    t.length ≤ s.length := by
  induction s with
  | nil => exact nomatch h
  | cons c s ih =>
    unfold behindSubset? at h
    split at h
    · split at h
      · next rest hr =>
        obtain rfl := Option.some.inj h
        have := length_dropWhile_le isBlank s
        rw [hr] at this
        simp only [List.length_cons] at this ⊢
        omega
      · exact Nat.le_succ_of_le (ih h)
    · exact Nat.le_succ_of_le (ih h)

theorem length_lt_of_behindDoctype? {s t : List Char} (h : behindDoctype? s = some t) :
    t.length < s.length := by
  unfold behindDoctype? at h
  split at h
  · next rest hm =>
    obtain rfl := Option.some.inj h
    obtain ⟨u, hu, hr⟩ := Option.map_eq_some_iff.1 hm
    have h₁ := length_lt_of_behind? hu (by decide)
    have h₂ := length_dropWhile_le (fun c => c ≠ '>' && c ≠ '[') u
    rw [hr, List.length_cons] at h₂
    omega
  · next rest hm =>
    obtain ⟨u, hu, hr⟩ := Option.map_eq_some_iff.1 hm
    have h₁ := length_lt_of_behind? hu (by decide)
    have h₂ := length_dropWhile_le (fun c => c ≠ '>' && c ≠ '[') u
    have h₃ := length_le_of_behindSubset? h
    rw [hr, List.length_cons] at h₂
    omega
  · exact nomatch h

theorem length_lt_of_behindPrologItem? {s t : List Char} (h : behindPrologItem? s = some t) :
    t.length < s.length := by
  unfold behindPrologItem? at h
  split at h
  · obtain rfl := Option.some.inj h
    simp
  · cases hd : behindDoctype? s with
    | some u =>
      rw [hd] at h
      obtain rfl := Option.some.inj h
      exact length_lt_of_behindDoctype? hd
    | none =>
      rw [hd] at h
      exact length_lt_of_behindMisc? h

/-! ## Cutting -/

/-- The text without the items of a prolog that it begins with. -/
def withoutProlog (s : List Char) : List Char :=
  match _h : behindPrologItem? s with
  | some t => withoutProlog t
  | none => s
termination_by s.length
decreasing_by exact length_lt_of_behindPrologItem? _h

/-- Whether a text consists of comments, processing instructions and blanks. -/
def isMisc (s : List Char) : Bool :=
  match _h : behindMisc? s with
  | some t => isMisc t
  | none => s.isEmpty
termination_by s.length
decreasing_by exact length_lt_of_behindMisc? _h

/-- The text without the longest end that stands outside of the root. -/
def withoutEpilog : List Char → List Char
  | [] => []
  | c :: s => if isMisc (c :: s) then [] else c :: withoutEpilog s

/-- What of a text stands inside of the root. -/
def inside (s : List Char) : List Char := withoutEpilog (withoutProlog s)

theorem withoutEpilog_nil : withoutEpilog [] = [] := rfl

end SvgBuilder.Comparison
