/-!
# Text as bytes

A character is written as one to four bytes. Bytes are read by a machine that takes one byte at a
time; a run of bytes that is the beginning of a character and cannot be continued counts as one
fault.

## Main definitions

* `Utf8.encodeChar`, `Utf8.encode` — the bytes of a character and of a text
* `Utf8.decode` — the characters of bytes, with their faults
* `Utf8.decode?` — the text of bytes without a fault
* `Utf8.decodeLossy` — the text of bytes, every fault being replaced
-/

namespace TupleClient.Utf8

/-- The bytes of a character. -/
def encodeChar (c : Char) : List Nat :=
  let n := c.toNat
  if n < 0x80 then [n]
  else if n < 0x800 then [0xC0 + n / 0x40, 0x80 + n % 0x40]
  else if n < 0x10000 then [0xE0 + n / 0x1000, 0x80 + n / 0x40 % 0x40, 0x80 + n % 0x40]
  else
    [0xF0 + n / 0x40000, 0x80 + n / 0x1000 % 0x40, 0x80 + n / 0x40 % 0x40, 0x80 + n % 0x40]

/-- The bytes of a text. -/
def encode (s : String) : List Nat := s.toList.flatMap encodeChar

/-- A character whose bytes are not all read: the value so far, the number of bytes that are
missing, and the least and greatest byte that may come next. -/
structure Unfinished where
  value : Nat
  missing : Nat
  least : Nat
  greatest : Nat

/-- What the first byte of a character promises, or the character if it is complete. -/
inductive Start where
  | complete (c : Char)
  | more (p : Unfinished)
  | fault

/-- A byte where a character starts. The second byte is restricted where a shorter form, a
surrogate or a value out of range would follow. -/
def start (b : Nat) : Start :=
  if b < 0x80 then .complete (Char.ofNat b)
  else if b < 0xC2 then .fault
  else if b < 0xE0 then .more ⟨b - 0xC0, 1, 0x80, 0xBF⟩
  else if b < 0xF0 then
    .more ⟨b - 0xE0, 2, if b = 0xE0 then 0xA0 else 0x80, if b = 0xED then 0x9F else 0xBF⟩
  else if b < 0xF5 then
    .more ⟨b - 0xF0, 3, if b = 0xF0 then 0x90 else 0x80, if b = 0xF4 then 0x8F else 0xBF⟩
  else .fault

/-- The characters of bytes after an unfinished one; `none` stands for a fault. -/
def decodeFrom (pending : Option Unfinished) : List Nat → List (Option Char)
  | [] => if pending.isSome then [none] else []
  | b :: rest =>
    let fresh (faults : List (Option Char)) : List (Option Char) :=
      match start b with
      | .complete c => faults ++ some c :: decodeFrom none rest
      | .more p => faults ++ decodeFrom (some p) rest
      | .fault => faults ++ none :: decodeFrom none rest
    match pending with
    | none => fresh []
    | some p =>
      if p.least ≤ b && b ≤ p.greatest then
        let value := p.value * 0x40 + b % 0x40
        if p.missing ≤ 1 then some (Char.ofNat value) :: decodeFrom none rest
        else decodeFrom (some ⟨value, p.missing - 1, 0x80, 0xBF⟩) rest
      -- The byte does not continue the character: that is one fault, and the byte is read afresh.
      else fresh [none]

/-- The characters of bytes; `none` stands for a fault. -/
def decode (bytes : List Nat) : List (Option Char) := decodeFrom none bytes

/-- The text of bytes, unless there is a fault. -/
def decode? (bytes : List Nat) : Option String :=
  ((decode bytes).mapM id).map String.ofList

/-- The text of bytes, with a replacement character for every fault. -/
def decodeLossy (bytes : List Nat) : String :=
  String.ofList ((decode bytes).map fun c => c.getD (Char.ofNat 0xFFFD))

end TupleClient.Utf8
