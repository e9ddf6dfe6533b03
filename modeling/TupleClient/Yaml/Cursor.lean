/-!
# Places in a text

A cursor is a place in a text that is read line by line. The end of the text counts as the end of a
line, and a line may end in a carriage return, a line feed, or both.

## Main definitions

* `Yaml.Cursor` — a place in a text
* `Yaml.Cursor.skip`, `Yaml.Cursor.skipBreak` — the places after some characters and after a line
* `Yaml.Cursor.finishToken?` — the place after blanks and perhaps a comment
-/

namespace TupleClient.Yaml

/-- Whether a character is a blank within a line. -/
def isBlank (c : Char) : Bool := c = ' ' || c = '\t'

/-- Whether a character ends a line. -/
def isBreak (c : Char) : Bool := c = '\n' || c = '\r'

/-- Whether a character has a meaning of its own inside brackets and braces. -/
def isFlowMark (c : Char) : Bool := ",[]\x7b\x7d".toList.contains c

/-- A place in a text. -/
structure Cursor where
  /-- What follows. -/
  rest : List Char
  /-- The number of characters of the whole text. -/
  size : Nat
  index : Nat := 0
  line : Nat := 0
  column : Nat := 0
  /-- Whether there are only blanks before this place in its line. -/
  leading : Bool := true

namespace Cursor

/-- The place at the beginning of a text. -/
def start (text : List Char) : Cursor := { rest := text, size := text.length }

/-- The number of characters that follow. -/
def left (c : Cursor) : Nat := c.size - c.index

/-- Whether nothing follows. -/
def atEnd (c : Cursor) : Bool := c.rest.isEmpty

/-- Whether a character for which `p` holds follows after `count` others. -/
def seesAfter (c : Cursor) (count : Nat) (p : Char → Bool) : Bool := (c.rest[count]?).any p

/-- Whether a character follows for which `p` holds. -/
def sees (c : Cursor) (p : Char → Bool) : Bool := c.seesAfter 0 p

/-- Whether a line ends here. -/
def seesEnd (c : Cursor) : Bool := c.rest.head?.all isBreak

/-- Whether a blank or the end of a line follows after `count` characters. -/
def seesGapAfter (c : Cursor) (count : Nat) : Bool :=
  (c.rest[count]?).all fun x => isBlank x || isBreak x

/-- The place after some characters of this line. -/
def skip (c : Cursor) (count : Nat) : Cursor :=
  let skipped := c.rest.take count
  { c with
    rest := c.rest.drop count
    index := c.index + skipped.length
    column := c.column + skipped.length
    leading := c.leading && skipped.all isBlank }

/-- The characters that follow as long as `p` holds of them. -/
def run (c : Cursor) (p : Char → Bool) : List Char := c.rest.takeWhile p

/-- The place after the characters of this line for which `p` holds. -/
def skipWhile (c : Cursor) (p : Char → Bool) : Cursor := c.skip (c.run p).length

/-- The place where `rest` follows, which is the end of what follows here in this line. -/
def skipTo (c : Cursor) (rest : List Char) : Cursor := c.skip (c.rest.length - rest.length)

/-- The place after the end of this line. -/
def skipBreak (c : Cursor) : Cursor :=
  let count := match c.rest with
    | '\r' :: '\n' :: _ => 2
    | _ => 1
  ⟨c.rest.drop count, c.size, c.index + count, c.line + 1, 0, true⟩

/-- The place at the end of this line. -/
def skipLine (c : Cursor) : Cursor := c.skipWhile fun x => !isBreak x

/-- Whether a line starts here with three characters, after which there is a gap. -/
def seesMark (c : Cursor) (mark : Char) : Bool :=
  c.column = 0 && c.rest.take 3 == [mark, mark, mark] && c.seesGapAfter 3

/-- Whether a document starts or ends here. -/
def seesDocumentMark (c : Cursor) : Bool := c.seesMark '-' || c.seesMark '.'

/-- The place after a token: after blanks, and after a comment if there is one. A comment has to be
set off by a blank. -/
def finishToken? (c : Cursor) : Option Cursor :=
  let after := c.skipWhile isBlank
  if after.sees (· = '#') then if after.index = c.index then none else some after.skipLine
  else some after

end Cursor

end TupleClient.Yaml
