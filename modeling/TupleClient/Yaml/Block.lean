import TupleClient.Yaml.Cursor

/-!
# Block scalars

A block scalar is all that is indented below its head. The head says whether ends of lines are kept
or folded, what becomes of the ends of lines after the last one with text, and perhaps how far the
text is indented; otherwise the first line with text tells.

## Main definitions

* `Yaml.BlockHead` — what the head says
* `Yaml.readBlock?` — the block scalar at a place
-/

namespace TupleClient.Yaml

/-- What becomes of the ends of lines after the last line with text. -/
inductive Chomping where
  | strip
  | clip
  | keep
deriving DecidableEq

/-- The head of a block scalar. -/
structure BlockHead where
  /-- Whether ends of lines are kept. -/
  literal : Bool
  chomping : Chomping
  /-- How much further than its surroundings the text is indented, if the head says so. -/
  increment : Option Nat

namespace BlockHead

/-- What a character says about the ends of lines. -/
def chomping? (c : Char) : Option Chomping :=
  if c = '+' then some .keep else if c = '-' then some .strip else none

/-- The head at a place, which is after the mark that starts it, and the place after it. -/
def read? (literal : Bool) (c : Cursor) : Option (BlockHead × Cursor) :=
  let chompingAt (i : Nat) : Option Chomping := c.rest[i]?.bind chomping?
  let incrementAt (i : Nat) : Option Nat :=
    (c.rest[i]?.filter Char.isDigit).map fun d => d.toNat - '0'.toNat
  let headAndSize : BlockHead × Nat := match chompingAt 0, incrementAt 0 with
    | some chomping, _ =>
      match incrementAt 1 with
      | some n => (⟨literal, chomping, some n⟩, 2)
      | none => (⟨literal, chomping, none⟩, 1)
    | none, some n =>
      match chompingAt 1 with
      | some chomping => (⟨literal, chomping, some n⟩, 2)
      | none => (⟨literal, .clip, some n⟩, 1)
    | none, none => (⟨literal, .clip, none⟩, 0)
  let (head, size) := headAndSize
  match head.increment, (c.skip size).finishToken? with
  | some 0, _ => none
  | _, some after => if after.seesEnd then some (head, after) else none
  | _, none => none

end BlockHead

/-- The place after empty lines, and after at most `indent` spaces of the next one, with the number
of empty lines and the greatest column that was reached. -/
def skipEmptyLines (indent : Option Nat) : Nat → Nat × Nat → Cursor → (Nat × Nat) × Cursor
  | 0, counts, c => (counts, c)
  | fuel + 1, (lines, reach), c =>
    let spaces := (c.run (· = ' ')).length
    let c := c.skip (match indent with
      | some n => min spaces (n - c.column)
      | none => spaces)
    if c.sees isBreak then skipEmptyLines indent fuel (lines + 1, max reach c.column) c.skipBreak
    else ((lines, max reach c.column), c)

/-- What has been read of a block scalar. -/
structure BlockText where
  /-- The text, last character first. -/
  found : List Char := []
  /-- Whether the last line read has ended. -/
  ended : Bool := false
  /-- The number of empty lines after it. -/
  emptyLines : Nat := 0
  /-- Whether the last line read starts with a blank. -/
  indented : Bool := false

/-- The text with one more line. Between two lines that do not start with blanks a folded scalar
has a space, or as many ends of lines as there are empty lines between them. -/
def BlockText.add (literal : Bool) (b : BlockText) (line : List Char) (ended : Bool) : BlockText :=
  let indented := line.head?.any isBlank
  let empty := List.replicate b.emptyLines '\n'
  let between :=
    if !literal && b.ended && !b.indented && !indented then
      if b.emptyLines = 0 then [' '] else empty
    else (if b.ended then ['\n'] else []) ++ empty
  ⟨line.reverse ++ (between.reverse ++ b.found), ended, 0, indented⟩

/-- The text. -/
def BlockText.text (b : BlockText) : List Char := b.found.reverse

/-- The lines of a block scalar that start at column `indent`, and the place after them. -/
def readLines (literal : Bool) (indent : Nat) : Nat → BlockText → Cursor → BlockText × Cursor
  | 0, b, c => (b, c)
  | fuel + 1, b, c =>
    if c.column ≠ indent || c.atEnd || (indent = 0 && c.seesMark '.') then (b, c)
    else
      let line := c.run fun x => !isBreak x
      let after := c.skipLine
      if after.atEnd then (b.add literal line false, after)
      else
        let ((lines, _), after) := skipEmptyLines (some indent) after.left (0, 0)
          after.skipBreak
        readLines literal indent fuel { b.add literal line true with emptyLines := lines } after

/-- The block scalar at a place, and the place after it. The column of its surroundings is `outer`,
which is -1 outside all of them. -/
def readBlock? (literal : Bool) (outer : Int) (c : Cursor) : Option (String × Cursor) :=
  match BlockHead.read? literal (c.skip 1) with
  | none => none
  | some (head, headEnd) =>
    let start := if headEnd.atEnd then headEnd else headEnd.skipBreak
    if start.sees (· = '\t') then none
    else
      -- Without an indentation in the head, the first line with text sets it.
      let given := head.increment.map fun n => (max outer 0).toNat + n
      let ((lines, reach), first) := skipEmptyLines given (start.left + 1) (0, 0) start
      let indent := given.getD (max reach (outer + 1).toNat)
      if first.atEnd then
        let text := match head.chomping with
          | .strip => []
          | .clip => if headEnd.atEnd then [] else ['\n']
          | .keep => if headEnd.atEnd then [] else List.replicate (max lines 1) '\n'
        some (String.ofList text, first)
      else if first.column < indent && outer < first.column then none
      else
        let (b, after) := readLines literal indent (first.left + 1)
          { emptyLines := lines } first
        let lastBreak := if b.ended then ['\n'] else []
        let endBreak := if after.atEnd && max indent 1 ≤ after.column then ['\n'] else []
        let last := lastBreak ++ endBreak
        let text := match head.chomping with
          | .strip => b.text
          | .clip => b.text ++ last
          | .keep => b.text ++ last ++ List.replicate b.emptyLines '\n'
        some (String.ofList text, after)

end TupleClient.Yaml
