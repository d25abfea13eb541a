import Mathlib.Tactic.IntervalCases
import Mathlib.Tactic.Ring
import SvgBuilder.Number.Digits
import SvgBuilder.Number.Reading

/-!
# The value of decimal digits

`valueOf` is the number that a run of digits stands for.  It is additive in the places of the
digits, so a run that is cut in two, or filled up with zeros, keeps its value; and the digits that
a number is written with have that number as their value.

## Main results

* `valueOf_decimal`: the digits of a number stand for it.
* `ofDigits_bounds`: the digits after the leading zeros tell the magnitude of a number.
* `spanDigits_append`: a run of digits is read up to its end.
-/

namespace SvgBuilder.Number

open SvgBuilder.Text

/-! ## Characters -/

/-- The decimal digits. -/
def digitChars : List Char := ['0', '1', '2', '3', '4', '5', '6', '7', '8', '9']

/-- The value of a decimal digit. -/
def digitOf (c : Char) : Nat := c.toNat - 48

/-- Text that is made of decimal digits. -/
def IsDigits (s : List Char) : Prop := ∀ c ∈ s, c ∈ digitChars

/-- The number that a run of digits stands for. -/
def valueOf (s : List Char) : Nat := ofDigits 10 (s.map digitOf)

theorem digit_mem {d : Nat} (h : d < 10) : Char.ofNat (48 + d) ∈ digitChars := by
  interval_cases d <;> decide

theorem digitOf_digit {d : Nat} (h : d < 10) : digitOf (Char.ofNat (48 + d)) = d := by
  interval_cases d <;> decide

theorem asciiDigit?_of_mem {c : Char} (h : c ∈ digitChars) : asciiDigit? c = some (digitOf c) := by
  have hAll : digitChars.all (fun c => asciiDigit? c == some (digitOf c)) = true := by decide
  simpa using List.all_eq_true.1 hAll c h

theorem digitOf_lt {c : Char} (h : c ∈ digitChars) : digitOf c < 10 := by
  have hAll : digitChars.all (fun c => digitOf c < 10) = true := by decide
  simpa using List.all_eq_true.1 hAll c h

theorem isDigits_append {s t : List Char} : IsDigits (s ++ t) ↔ IsDigits s ∧ IsDigits t :=
  List.forall_mem_append

theorem isDigits_zeros (n : Nat) : IsDigits (List.replicate n '0') := by
  intro c hc
  rw [List.eq_of_mem_replicate hc]
  decide

/-! ## Values -/

theorem foldl_digits (base a : Nat) (ds : List Nat) :
    ds.foldl (fun n d => n * base + d) a = a * base ^ ds.length + ofDigits base ds := by
  unfold ofDigits
  induction ds generalizing a with
  | nil => simp
  | cons d ds ih =>
    rw [List.foldl_cons, List.foldl_cons, ih (a * base + d), ih (0 * base + d), List.length_cons]
    ring

theorem ofDigits_append (base : Nat) (ds es : List Nat) :
    ofDigits base (ds ++ es) = ofDigits base ds * base ^ es.length + ofDigits base es := by
  rw [ofDigits, List.foldl_append, foldl_digits]
  rfl

theorem ofDigits_cons (base d : Nat) (ds : List Nat) :
    ofDigits base (d :: ds) = d * base ^ ds.length + ofDigits base ds := by
  rw [ofDigits, List.foldl_cons, foldl_digits]
  simp

theorem valueOf_append (s t : List Char) :
    valueOf (s ++ t) = valueOf s * 10 ^ t.length + valueOf t := by
  simp [valueOf, ofDigits_append]

theorem valueOf_zeros (n : Nat) : valueOf (List.replicate n '0') = 0 := by
  induction n with
  | zero => rfl
  | succ n ih =>
    have hZero : digitOf '0' = 0 := rfl
    rw [valueOf] at ih
    rw [List.replicate_succ, valueOf, List.map_cons, ofDigits_cons, ih, hZero, Nat.zero_mul]

theorem ofDigits_lt {ds : List Nat} (h : ∀ d ∈ ds, d < 10) : ofDigits 10 ds < 10 ^ ds.length := by
  induction ds with
  | nil => simp [ofDigits]
  | cons d ds ih =>
    have hHead : d < 10 := h d (by simp)
    have hTail := ih fun e he => h e (by simp [he])
    have hStep : d * 10 ^ ds.length ≤ 9 * 10 ^ ds.length := Nat.mul_le_mul_right _ (by omega)
    rw [ofDigits_cons, List.length_cons, Nat.pow_succ]
    omega

/-- The digits that are left without leading zeros tell the magnitude of the number. -/
theorem ofDigits_bounds {ds : List Nat} (h : ∀ d ∈ ds, d < 10) :
    ofDigits 10 ds < 10 ^ (ds.dropWhile (· = 0)).length ∧
      (ofDigits 10 ds ≠ 0 →
        0 < (ds.dropWhile (· = 0)).length ∧
          10 ^ ((ds.dropWhile (· = 0)).length - 1) ≤ ofDigits 10 ds) := by
  induction ds with
  | nil => simp [ofDigits]
  | cons d ds ih =>
    have hTail : ∀ e ∈ ds, e < 10 := fun e he => h e (by simp [he])
    by_cases hd : d = 0
    · rw [List.dropWhile_cons_of_pos (by simpa using hd), ofDigits_cons, hd, Nat.zero_mul,
        Nat.zero_add]
      exact ih hTail
    · rw [List.dropWhile_cons_of_neg (by simpa using hd)]
      refine ⟨ofDigits_lt h, fun _ => ⟨Nat.succ_pos _, ?_⟩⟩
      rw [ofDigits_cons, List.length_cons, Nat.add_sub_cancel]
      exact Nat.le_add_right_of_le (Nat.le_mul_of_pos_left _ (Nat.pos_of_ne_zero hd))

/-! ## Decimal notation -/

theorem isDigits_decimal (n : Nat) : IsDigits (decimal n) := by
  intro c hc
  rw [decimal, List.mem_reverse] at hc
  induction n using digitsRev.induct with
  | case1 n hn =>
    rw [digitsRev, if_pos hn, List.mem_singleton] at hc
    rw [hc]
    exact digit_mem hn
  | case2 n hn ih =>
    rw [digitsRev, if_neg hn, List.mem_cons] at hc
    rcases hc with rfl | hc
    · exact digit_mem (Nat.mod_lt _ (by omega))
    · exact ih hc

theorem decimal_eq_append {n : Nat} (h : ¬n < 10) :
    decimal n = decimal (n / 10) ++ [Char.ofNat (48 + n % 10)] := by
  rw [decimal, digitsRev, if_neg h, List.reverse_cons, decimal]

/-- The digits of a number stand for it. -/
theorem valueOf_decimal (n : Nat) : valueOf (decimal n) = n := by
  induction n using digitsRev.induct with
  | case1 n hn =>
    rw [decimal, digitsRev, if_pos hn]
    simpa [valueOf, ofDigits] using digitOf_digit hn
  | case2 n hn ih =>
    have hLast : valueOf [Char.ofNat (48 + n % 10)] = n % 10 := by
      simpa [valueOf, ofDigits] using digitOf_digit (Nat.mod_lt n (by omega : 10 > 0))
    rw [decimal_eq_append hn, valueOf_append, ih, hLast, List.length_singleton]
    omega

theorem digitCount_spec (n : Nat) : n < 10 ^ digitCount n ∧ 0 < digitCount n ∧
    (n ≠ 0 → 10 ^ (digitCount n - 1) ≤ n) := by
  induction n using digitCount.induct with
  | case1 n hn =>
    rw [digitCount, if_pos hn]
    exact ⟨by omega, by omega, Nat.one_le_iff_ne_zero.2⟩
  | case2 n hn ih =>
    obtain ⟨hLt, hPos, hLe⟩ := ih
    have hPow : 10 ^ digitCount (n / 10) = 10 ^ (digitCount (n / 10) - 1) * 10 := by
      rw [← Nat.pow_succ, Nat.succ_eq_add_one, Nat.sub_add_cancel hPos]
    have hQuotient := hLe (by omega)
    rw [digitCount, if_neg hn, Nat.add_sub_cancel, Nat.pow_succ]
    exact ⟨by omega, by omega, fun _ => by omega⟩

/-! ## Runs of digits -/

/-- A run of digits is read up to its end. -/
theorem spanDigits_append {s t : List Char} (hs : IsDigits s)
    (ht : (t.head?.bind asciiDigit?) = none) : spanDigits (s ++ t) = (s.map digitOf, t) := by
  induction s with
  | nil =>
    cases t with
    | nil => rfl
    | cons c t =>
      have hc : asciiDigit? c = none := by simpa using ht
      simp [spanDigits, hc]
  | cons c s ih =>
    have hc := asciiDigit?_of_mem (hs c (by simp))
    have hTail := ih fun d hd => hs d (by simp [hd])
    simp [spanDigits, hc, hTail]

theorem spanDigits_eq {s : List Char} (hs : IsDigits s) : spanDigits s = (s.map digitOf, []) := by
  simpa using spanDigits_append (t := []) hs rfl

end SvgBuilder.Number
