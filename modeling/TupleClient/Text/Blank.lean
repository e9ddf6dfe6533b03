import TupleClient.Text.CharSet

/-!
# Blank text

Blankness is the Unicode property `White_Space`: the ASCII blanks together with, among others, the
next-line character, the no-break space and the ideographic space. The zero-width space and the
byte-order mark do not have the property.

## Main definitions

* `Text.isBlankChar` — one character has the property
* `Text.isBlank` — a text holds no other characters
* `Text.trim` — a text without the blanks at its two ends
-/

namespace TupleClient.Text

/-- The characters with the property `White_Space`. -/
def blanks : CharSet :=
  ⟨[(0x09, 0x0D), (0x20, 0x20), (0x85, 0x85), (0xA0, 0xA0), (0x1680, 0x1680), (0x2000, 0x200A),
    (0x2028, 0x2029), (0x202F, 0x202F), (0x205F, 0x205F), (0x3000, 0x3000)]⟩

/-- Whether a character has the property `White_Space`. -/
def isBlankChar (c : Char) : Bool :=
  blanks.contains c

/-- Whether a text holds nothing but blanks. -/
def isBlank (s : String) : Bool :=
  s.toList.all isBlankChar

/-- A list without the members at its two ends that satisfy `p`. -/
def trimList {α : Type} (p : α → Bool) (cs : List α) : List α :=
  (((cs.dropWhile p).reverse).dropWhile p).reverse

/-- A text without the blanks at its two ends. -/
def trim (s : String) : String :=
  String.ofList (trimList isBlankChar s.toList)

/-- The trimmed text, unless nothing is left of it. -/
def nonBlank (s : String) : Option String :=
  if isBlank s then none else some (trim s)

end TupleClient.Text
