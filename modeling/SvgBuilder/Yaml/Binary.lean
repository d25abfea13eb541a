/-!
# Bytes in text

Bytes are written as characters of six bits each, four for three bytes, and the last group is
filled up with equals signs.  Other characters are passed over.

## Main definitions

* `decodeBinary?`: the bytes that a text holds.
-/

namespace SvgBuilder.Yaml

/-- The value of a character of six bits. -/
def sextet? (c : Char) : Option Nat :=
  if 'A' ≤ c ∧ c ≤ 'Z' then some (c.toNat - 65)
  else if 'a' ≤ c ∧ c ≤ 'z' then some (c.toNat - 71)
  else if '0' ≤ c ∧ c ≤ '9' then some (c.toNat + 4)
  else if c = '+' then some 62
  else if c = '/' then some 63
  else none

/-- The bytes of a text.  `count` is the number of characters of the group so far, `bits` their
last bits and `fills` the number of equals signs behind them.  A group that is filled up ends the
text. -/
def decodeBinaryFrom (count bits fills : Nat) : List Char → Option (List UInt8)
  | [] => if count = 0 then some [] else none
  | c :: s =>
    if c = '=' then
      if 2 ≤ count ∧ 4 ≤ count + fills + 1 then some []
      else decodeBinaryFrom count bits (fills + 1) s
    else
      match sextet? c with
      | none => decodeBinaryFrom count bits fills s
      | some v =>
        if count = 0 then decodeBinaryFrom 1 v 0 s
        else if count = 1 then
          (decodeBinaryFrom 2 (v % 16) 0 s).map (UInt8.ofNat (bits * 4 + v / 16) :: ·)
        else if count = 2 then
          (decodeBinaryFrom 3 (v % 4) 0 s).map (UInt8.ofNat (bits * 16 + v / 4) :: ·)
        else (decodeBinaryFrom 0 0 0 s).map (UInt8.ofNat (bits * 64 + v) :: ·)

/-- The bytes that a text of ASCII characters holds. -/
def decodeBinary? (s : List Char) : Option (List UInt8) :=
  if s.all (·.toNat < 128) then decodeBinaryFrom 0 0 0 s else none

end SvgBuilder.Yaml
