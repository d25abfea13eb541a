import SvgBuilder.Markup.Fault
import SvgBuilder.Text.Utf8

/-!
# Encodings of documents

A document is in UTF-8 unless a byte order mark or its first line says something else.  Besides
UTF-8 the encodings are UTF-16 in both byte orders, Latin-1 and ASCII.

## Main definitions

* `Encoding.decode?`: the text that bytes hold in an encoding.
* `Encoding.ofMark?`, `Encoding.ofName?`: what a document says of its encoding.
-/

namespace SvgBuilder.Markup

open SvgBuilder.Text

/-- The encodings of documents. -/
inductive Encoding where
  | utf8
  | utf16 (bigEndian : Bool)
  | latin1
  | ascii
  deriving DecidableEq, Repr

/-- Which of two bytes comes first in a unit. -/
def unitOf (bigEndian : Bool) (a b : UInt8) : Nat :=
  if bigEndian then a.toNat * 256 + b.toNat else b.toNat * 256 + a.toNat

/-- The units of 16 bits, if the number of bytes is even. -/
def units (bigEndian : Bool) : List UInt8 → Option (List Nat)
  | [] => some []
  | [_] => none
  | a :: b :: s => (units bigEndian s).map (unitOf bigEndian a b :: ·)

/-- The characters of units of 16 bits. -/
def ofUnits? : List Nat → Option (List Char)
  | [] => some []
  | u :: s =>
    if 0xD800 ≤ u ∧ u ≤ 0xDBFF then
      match s with
      | v :: t =>
        if 0xDC00 ≤ v ∧ v ≤ 0xDFFF then
          (ofUnits? t).map (Char.ofNat (0x10000 + (u - 0xD800) * 1024 + (v - 0xDC00)) :: ·)
        else none
      | [] => none
    else if 0xDC00 ≤ u ∧ u ≤ 0xDFFF then none
    else (ofUnits? s).map (Char.ofNat u :: ·)

/-- The text that the bytes hold in an encoding. -/
def Encoding.decode? (bytes : List UInt8) : Encoding → Option (List Char)
  | .utf8 => Utf8.decode? bytes
  | .utf16 bigEndian => (units bigEndian bytes).bind ofUnits?
  | .latin1 => some (bytes.map fun b => Char.ofNat b.toNat)
  | .ascii => bytes.mapM fun b => if b.toNat < 128 then some (Char.ofNat b.toNat) else none

/-- The encodings that a document can name, each with its names in capitals.  A document whose
declaration can be read byte by byte is not in UTF-16. -/
def Encoding.names : List (Encoding × List String) := [
  (.utf8, ["UTF-8", "UTF8", "ISO-IR-193", "OSF05010001"]),
  (.latin1, ["ISO-8859-1", "ISO8859-1", "ISO88591", "ISO_8859-1", "ISO-LATIN-1", "ISO-IR-100",
    "LATIN1", "L1", "IBM819", "CP819", "CSISOLATIN1", "OSF00010001"]),
  (.ascii, ["US-ASCII", "ASCII", "US", "ANSI_X3.4-1968", "ANSI_X3.4-1986", "ISO-IR-6",
    "ISO646-US", "IBM367", "CP367", "CSASCII", "OSF00010020"])]

/-- The encoding of this name.  Letter case does not matter. -/
def Encoding.ofName? (name : String) : Option Encoding :=
  let name := String.ofList (name.toList.map Char.toUpper)
  (Encoding.names.find? (name ∈ ·.2)).map (·.1)

/-- The encoding that the first bytes show, and the bytes without the mark. -/
def Encoding.ofMark? : List UInt8 → Option (Encoding × List UInt8)
  | 0xEF :: 0xBB :: 0xBF :: s => some (.utf8, s)
  | 0xFE :: 0xFF :: s => some (.utf16 true, s)
  | 0xFF :: 0xFE :: s => some (.utf16 false, s)
  | 0x00 :: 0x3C :: 0x00 :: 0x3F :: s => some (.utf16 true, 0x00 :: 0x3C :: 0x00 :: 0x3F :: s)
  | 0x3C :: 0x00 :: 0x3F :: 0x00 :: s => some (.utf16 false, 0x3C :: 0x00 :: 0x3F :: 0x00 :: s)
  | _ => none

end SvgBuilder.Markup
