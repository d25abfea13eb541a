/-!
# UTF-8

`encode` writes characters as bytes.  `scan` reads bytes back: every step takes one character or
a maximal ill-formed sequence, one that begins like a character and cannot be continued.
`decode?` refuses ill-formed sequences and `decodeLossy` puts the replacement character in their
place.

## Main results

* `encode_inj`: a text is known by its bytes.
-/

namespace SvgBuilder.Text.Utf8

/-! ## Writing -/

/-- The bytes of a character. -/
def encodeChar (c : Char) : List UInt8 :=
  let n := c.toNat
  if n < 0x80 then [UInt8.ofNat n]
  else if n < 0x800 then [UInt8.ofNat (0xC0 + n / 64), UInt8.ofNat (0x80 + n % 64)]
  else if n < 0x10000 then
    [UInt8.ofNat (0xE0 + n / 4096), UInt8.ofNat (0x80 + n / 64 % 64),
      UInt8.ofNat (0x80 + n % 64)]
  else
    [UInt8.ofNat (0xF0 + n / 262144), UInt8.ofNat (0x80 + n / 4096 % 64),
      UInt8.ofNat (0x80 + n / 64 % 64), UInt8.ofNat (0x80 + n % 64)]

/-- The bytes of a text. -/
def encode (s : List Char) : List UInt8 := s.flatMap encodeChar

/-! ## Reading -/

/-- Why a sequence of bytes is no character. -/
inductive Fault where
  /-- No character begins with this byte. -/
  | start
  /-- The next byte does not continue the character. -/
  | continuation
  /-- The bytes end inside the character. -/
  | truncated
  deriving DecidableEq, Repr

/-- What stands at the beginning of a sequence of bytes: a character or a fault, and the number
of bytes that it takes. -/
inductive Step where
  | char (c : Char) (width : Nat)
  | fault (reason : Fault) (width : Nat)

/-- How a first byte goes on: the bits it gives, the number of bytes that follow and the range
of the next one. -/
def lead? (b : Nat) : Option (Nat × Nat × Nat × Nat) :=
  if b < 0xC2 then none
  else if b < 0xE0 then some (b - 0xC0, 1, 0x80, 0xBF)
  else if b = 0xE0 then some (0, 2, 0xA0, 0xBF)
  else if b = 0xED then some (0xD, 2, 0x80, 0x9F)
  else if b < 0xF0 then some (b - 0xE0, 2, 0x80, 0xBF)
  else if b = 0xF0 then some (0, 3, 0x90, 0xBF)
  else if b < 0xF4 then some (b - 0xF0, 3, 0x80, 0xBF)
  else if b = 0xF4 then some (4, 3, 0x80, 0x8F)
  else none

/-- Reads the bytes that continue a character: `value` holds the bits so far, `taken` the number
of bytes, `low` and `high` bound the next byte. -/
def continued (value taken low high : Nat) : Nat → List UInt8 → Step
  | 0, _ => .char (Char.ofNat value) taken
  | _ + 1, [] => .fault .truncated taken
  | more + 1, b :: s =>
    if low ≤ b.toNat ∧ b.toNat ≤ high then
      continued (value * 64 + (b.toNat - 0x80)) (taken + 1) 0x80 0xBF more s
    else .fault .continuation taken

/-- Reads what a byte and those after it begin with. -/
def step (b : UInt8) (s : List UInt8) : Step :=
  if b.toNat < 0x80 then .char (Char.ofNat b.toNat) 1
  else
    match lead? b.toNat with
    | none => .fault .start 1
    | some (bits, more, low, high) => continued bits 1 low high more s

/-- Reads all bytes.  `skip` counts the bytes that belong to the step before. -/
def scanFrom (skip : Nat) : List UInt8 → List (Except Fault Char)
  | [] => []
  | b :: s =>
    match skip with
    | skip + 1 => scanFrom skip s
    | 0 =>
      match step b s with
      | .char c width => .ok c :: scanFrom (width - 1) s
      | .fault reason width => .error reason :: scanFrom (width - 1) s

/-- The characters and the ill-formed sequences of the bytes, in order. -/
def scan (bytes : List UInt8) : List (Except Fault Char) := scanFrom 0 bytes

/-- The text that the bytes hold, if all of them are well formed. -/
def decode? (bytes : List UInt8) : Option (List Char) :=
  (scan bytes).mapM Except.toOption

/-- The text that the bytes hold, with a replacement character for every ill-formed sequence. -/
def decodeLossy (bytes : List UInt8) : List Char :=
  (scan bytes).map fun
    | .ok c => c
    | .error _ => '\uFFFD'

/-- The first ill-formed sequence: its reason, its place and its bytes. -/
def firstFault? (offset skip : Nat) : List UInt8 → Option (Fault × Nat × List UInt8)
  | [] => none
  | b :: s =>
    match skip with
    | skip + 1 => firstFault? (offset + 1) skip s
    | 0 =>
      match step b s with
      | .char _ width => firstFault? (offset + 1) (width - 1) s
      | .fault reason width => some (reason, offset, (b :: s).take width)

/-- The bytes of a character are those of the characters of strings. -/
theorem encodeChar_eq (c : Char) : encodeChar c = String.utf8EncodeChar c := by
  have hc : c.toNat < 0x110000 := by
    have hValid := c.valid
    have hVal : c.toNat = c.val.toNat := rfl
    unfold UInt32.isValidChar Nat.isValidChar at hValid
    omega
  have hVal : c.val.toNat = c.toNat := rfl
  simp only [encodeChar, String.utf8EncodeChar, hVal]
  by_cases h1 : c.toNat < 0x80
  · rw [if_pos h1, if_pos (show c.toNat ≤ 0x7F by omega)]
  · rw [if_neg h1, if_neg (show ¬ c.toNat ≤ 0x7F by omega)]
    by_cases h2 : c.toNat < 0x800
    · rw [if_pos h2, if_pos (show c.toNat ≤ 0x7FF by omega),
        show c.toNat / 64 % 32 = c.toNat / 64 by omega]
      simp only [Nat.add_comm]
    · rw [if_neg h2, if_neg (show ¬ c.toNat ≤ 0x7FF by omega)]
      by_cases h3 : c.toNat < 0x10000
      · rw [if_pos h3, if_pos (show c.toNat ≤ 0xFFFF by omega),
          show c.toNat / 4096 % 16 = c.toNat / 4096 by omega]
        simp only [Nat.add_comm]
      · rw [if_neg h3, if_neg (show ¬ c.toNat ≤ 0xFFFF by omega),
          show c.toNat / 262144 % 8 = c.toNat / 262144 by omega]
        simp only [Nat.add_comm]

/-- A text is known by its bytes. -/
theorem encode_inj {s t : List Char} : encode s = encode t ↔ s = t := by
  constructor
  · intro h
    have hEq : encodeChar = String.utf8EncodeChar := funext encodeChar_eq
    rw [encode, encode, hEq] at h
    have hBytes : s.utf8Encode = t.utf8Encode := by rw [List.utf8Encode, List.utf8Encode, h]
    have hText : String.ofList s = String.ofList t := by
      rw [← String.toByteArray_inj]
      exact hBytes
    exact String.ofList_inj.1 hText
  · rintro rfl
    rfl
end SvgBuilder.Text.Utf8
