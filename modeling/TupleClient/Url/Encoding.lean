import TupleClient.Text.Hex
import TupleClient.Text.Utf8

/-!
# Percent-encoding

A byte is percent-encoded as a percent sign and two capital hexadecimal digits.

## Main definitions

* `Url.percentEncode` — a text with the characters of a set encoded
* `Url.percentDecode` — bytes with encoded bytes read back
-/

namespace TupleClient.Url

/-- An encoded byte. -/
def encodeByte (b : Nat) : List Char := ['%', Text.hexDigit (b / 16), Text.hexDigit (b % 16)]

/-- A text with the controls, the characters beyond ASCII and those of a set encoded. -/
def percentEncode (reserved : List Char) (cs : List Char) : List Char :=
  cs.flatMap fun c =>
    if c.toNat < 0x20 || 0x7E < c.toNat || reserved.contains c then
      (Utf8.encodeChar c).flatMap encodeByte
    else [c]

/-- The byte of two digits. -/
def byte? (high low : Nat) : Option Nat :=
  (Text.hexValue? (Char.ofNat high)).bind fun h =>
    (Text.hexValue? (Char.ofNat low)).map fun l => 16 * h + l

/-- Bytes with every encoded byte read back. A percent sign without two digits stays. -/
def percentDecode : List Nat → List Nat
  | a :: b :: c :: rest =>
    match if a = '%'.toNat then byte? b c else none with
    | some byte => byte :: percentDecode rest
    | none => a :: percentDecode (b :: c :: rest)
  | rest => rest

end TupleClient.Url
