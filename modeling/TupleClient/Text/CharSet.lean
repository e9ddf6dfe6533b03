import TupleClient.Text.Hex
import TupleClient.Text.Split

/-!
# Sets and maps of characters

A property of characters is a set of code points, and a rule that replaces characters is a map from
code points to texts. Both are held as ranges, and large ones are written as tables: lines of
entries between spaces, in which code points are hexadecimal.

In the table of a set an entry is a point or a range, such as `AD` or `300-36F`.

In the table of a map an entry is such points, an arrow and what they are replaced by. A range that
skips every second point is written `100-12E:2`. A single replacement is that of the first point of
a range; the other points are moved as far as the first one is, so that `41-5A>61` makes letters
small. Several replacements between dots make a text, as in `132>69.6A`. An entry without an arrow
is for the point after those of the entry before it.

## Main definitions

* `Text.CharSet` and `Text.CharSet.contains` — sets of characters
* `Text.CharMap` and `Text.CharMap.find?` — maps from characters to texts
* `Text.CharSet.ofTable`, `Text.CharMap.ofTable` — sets and maps written as tables
-/

namespace TupleClient.Text

/-- A code point that is written in hexadecimal. -/
def readCode (digits : List Char) : Nat :=
  digits.foldl (fun n d => 16 * n + (hexValue? d).getD 0) 0

/-- The first and the last code point of an entry. -/
def readRange (entry : List Char) : Nat × Nat :=
  match splitAt (· = '-') entry with
  | [first, last] => (readCode first, readCode last)
  | _ => (readCode entry, readCode entry)

/-- The entries of a table. -/
def tableEntries (lines : List String) : List (List Char) :=
  lines.flatMap fun line => splitAt (· = ' ') line.toList

/-! ### Sets -/

/-- A set of characters: closed ranges of code points. -/
structure CharSet where
  ranges : List (Nat × Nat)

namespace CharSet

/-- Whether a character belongs to a set. -/
def contains (s : CharSet) (c : Char) : Bool :=
  s.ranges.any fun range => range.1 ≤ c.toNat && c.toNat ≤ range.2

/-- The set that is written as a table. -/
def ofTable (lines : List String) : CharSet := ⟨(tableEntries lines).map readRange⟩

theorem contains_iff {s : CharSet} {c : Char} :
    s.contains c = true ↔ ∃ range ∈ s.ranges, range.1 ≤ c.toNat ∧ c.toNat ≤ range.2 := by
  simp [contains]

end CharSet

/-! ### Maps -/

/-- Code points at equal distances with what they are replaced by. -/
structure CharRun where
  first : Nat
  last : Nat
  step : Nat
  /-- What the first point is replaced by. -/
  image : List Nat

namespace CharRun

/-- Whether a character is one of the points. -/
def contains (r : CharRun) (c : Char) : Bool :=
  r.first ≤ c.toNat && c.toNat ≤ r.last && (c.toNat - r.first) % r.step = 0

/-- What one of the points is replaced by. -/
def replace (r : CharRun) (c : Char) : List Char :=
  match r.image with
  | [target] => [Char.ofNat (target + (c.toNat - r.first))]
  | image => image.map Char.ofNat

/-- The run of an entry; one without an arrow is for the point `next`. -/
def read (next : Nat) (entry : List Char) : CharRun :=
  let image (cs : List Char) : List Nat := (splitAt (· = '.') cs).map readCode
  match splitAt (· = '>') entry with
  | [points, targets] =>
    let (first, last) := readRange (points.takeWhile (· ≠ ':'))
    ⟨first, last, if points.contains ':' then 2 else 1, image targets⟩
  | _ => ⟨next, next, 1, image entry⟩

/-- The runs of entries, of which the first one may be for the point `next`. -/
def readAll (next : Nat) : List (List Char) → List CharRun
  | [] => []
  | entry :: rest =>
    let run := read next entry
    run :: readAll (run.last + 1) rest

end CharRun

/-- A map from characters to texts. -/
structure CharMap where
  runs : List CharRun

namespace CharMap

/-- What a character is replaced by, if the map says so. -/
def find? (m : CharMap) (c : Char) : Option (List Char) :=
  (m.runs.find? fun r => r.contains c).map fun r => r.replace c

/-- The map that is written as a table. -/
def ofTable (lines : List String) : CharMap := ⟨CharRun.readAll 0 (tableEntries lines)⟩

end CharMap

end TupleClient.Text
