import TupleClient.Yaml.Block
import TupleClient.Yaml.Fold
import TupleClient.Yaml.Tag

/-!
# Tokens of YAML

Outside brackets and braces the structure of a text is its indentation. The scanner keeps the
columns of the open blocks and closes those that a token stands left of. A mapping can be seen only
when a colon follows its first key, so the scanner remembers where a key may have started, and puts
the tokens for the mapping and the key there once the colon comes. A key outside brackets is on one
line.

An item between brackets may be a single entry of a mapping. A colon starts a mapping there unless a
brace or a question mark has announced one before, wherever that was; the mapping ends at the next
comma or closing bracket of any depth. So an item whose value has brackets of its own is seen as an
entry only after such an announcement.

## Main definitions

* `Yaml.Token` — the tokens
* `Yaml.Scanner` — where the scanner is and what is open there
* `Yaml.tokens?` — the tokens of a text
-/

namespace TupleClient.Yaml

/-- A token of a text. -/
inductive Token where
  | documentStart
  | documentEnd
  /-- A directive, of the version or of a handle. -/
  | version
  | handle (h : Handle)
  /-- A block sequence or mapping starts or ends. -/
  | blockSequence
  | blockMapping
  | blockEnd
  /-- A bracket or brace. -/
  | openSequence
  | closeSequence
  | openMapping
  | closeMapping
  /-- A dash, a comma, and what introduces a key and a value. -/
  | entry
  | comma
  | key
  | value
  /-- A value that has a name, the name of one, and the type of one. -/
  | alias (name : String)
  | anchor (name : String)
  | tag (t : Tag)
  | scalar (plain : Bool) (text : String)
deriving DecidableEq

/-- A column that what follows may not stand left of. -/
structure Level where
  column : Int
  /-- Whether a block starts at the column; otherwise the value of a key or an entry is awaited. -/
  block : Bool

/-- A place where a key may have started. -/
structure KeyPlace where
  /-- The number of tokens before it. -/
  position : Nat
  cursor : Cursor
  /-- Whether nothing but a key can start there. -/
  required : Bool

/-- Where the scanner is and what is open there; the innermost comes first. -/
structure Scanner where
  cursor : Cursor
  /-- The tokens found, last one first. -/
  found : List Token := []
  /-- The number of tokens found. -/
  count : Nat := 0
  levels : List Level := []
  /-- The number of open brackets and braces. -/
  depth : Nat := 0
  /-- Whether a mapping between brackets has been announced. -/
  announced : Bool := false
  /-- Whether a colon has started a mapping between brackets. -/
  pairOpen : Bool := false
  /-- Where a key may have started, within each of them and outside. -/
  keys : List (Option KeyPlace) := [none]
  keyAllowed : Bool := true
  /-- A place where a colon introduces a value even if no blank follows. -/
  valueAt : Option Nat := none
  /-- The column of the last token, if it is an anchor or a tag. -/
  nodeColumn : Option Nat := none

namespace Scanner

/-! ### Levels -/

/-- The column that what follows may not stand left of; -1 if there is none. -/
def indent (s : Scanner) : Int := (s.levels.head?.map Level.column).getD (-1)

/-- Whether the scanner is outside brackets and braces. -/
def inBlock (s : Scanner) : Bool := s.depth = 0

/-- The scanner after one more token. -/
def put (token : Token) (s : Scanner) : Scanner :=
  { s with found := token :: s.found, count := s.count + 1, nodeColumn := none }

/-- The scanner with a token put where there were `position` tokens. -/
def insert (position : Nat) (token : Token) (s : Scanner) : Scanner :=
  -- Tokens are kept last one first, so the ones that come later are at the front.
  let later := s.count - position
  { s with found := s.found.take later ++ token :: s.found.drop later, count := s.count + 1 }

/-- The scanner with the blocks closed that a column is left of. -/
def unroll (column : Int) (s : Scanner) : Scanner :=
  if s.inBlock then
    let closed := s.levels.takeWhile fun l => column < l.column
    let ends := closed.countP Level.block
    { s with
      levels := s.levels.drop closed.length
      found := List.replicate ends .blockEnd ++ s.found
      count := s.count + ends }
  else s

/-- The scanner without the levels at which no block has started. -/
def settle (s : Scanner) : Scanner := { s with levels := s.levels.dropWhile fun l => !l.block }

/-- The scanner with a block opened at a column, by a token at a position, unless one is open
there. -/
def roll (column position : Nat) (token : Token) (s : Scanner) : Scanner :=
  if s.inBlock then
    -- A block that starts here takes the place of the level at which it was awaited.
    let levels := match s.levels with
      | ⟨awaited, false⟩ :: outer => if awaited ≤ column then outer else s.levels
      | levels => levels
    let s := { s with levels := levels }
    if s.indent < (column : Int) then
      { s with levels := ⟨column, true⟩ :: levels }.insert position token
    else s
  else s

/-- The scanner when a value right of the innermost block is awaited. -/
def await (s : Scanner) : Scanner :=
  match s.levels with
  | ⟨column, true⟩ :: _ =>
    if s.inBlock then { s with levels := ⟨column + 1, false⟩ :: s.levels } else s
  | _ => s

/-! ### Keys -/

/-- The innermost place where a key may have started. -/
def keyPlace? (s : Scanner) : Option KeyPlace := s.keys.head?.join

/-- The scanner with another such place. -/
def setKeyPlace (place : Option KeyPlace) (s : Scanner) : Scanner :=
  { s with keys := place :: s.keys.tail }

/-- The scanner where a key may start, if one is allowed. -/
def markKey (s : Scanner) : Scanner :=
  if s.keyAllowed then
    -- At the column of an open block only its next key or entry can start.
    let required := s.inBlock && s.indent == s.cursor.column && (s.levels.head?.any Level.block)
    s.setKeyPlace (some ⟨s.count, s.cursor, required⟩)
  else s

/-- The scanner after a place where no key has started, unless one had to. -/
def dropKey? (s : Scanner) : Option Scanner :=
  if s.keyPlace?.any KeyPlace.required then none else some (s.setKeyPlace none)

/-- The scanner without a place too far away for a key to have started there. -/
def dropStaleKey? (s : Scanner) : Option Scanner :=
  match s.keyPlace? with
  | none => some s
  | some place =>
    if s.inBlock && (place.cursor.line < s.cursor.line ||
        place.cursor.index + 1024 < s.cursor.index) then s.dropKey?
    else some s

/-- The scanner when a key is allowed to start or not. -/
def allowKey (allowed : Bool) (s : Scanner) : Scanner := { s with keyAllowed := allowed }

/-- The scanner at another place. -/
def moveTo (c : Cursor) (s : Scanner) : Scanner := { s with cursor := c }

/-! ### Between tokens -/

/-- The scanner at the next token. Tabs do not indent what is in a block. -/
def skipGap? : Nat → Scanner → Option Scanner
  | 0, _ => none
  | fuel + 1, s =>
    let c := s.cursor
    if c.sees (· = '\t') && !s.levels.isEmpty && c.leading && c.column < s.indent then
      match c.finishToken? with
      | some after => if after.seesEnd then skipGap? fuel (s.moveTo after) else none
      | none => none
    else if c.sees isBlank then skipGap? fuel (s.moveTo (c.skip 1))
    else if c.sees isBreak then
      skipGap? fuel ((s.moveTo c.skipBreak).allowKey (s.keyAllowed || s.inBlock))
    else if c.sees (· = '#') then skipGap? fuel (s.moveTo c.skipLine)
    else some s

/-- The scanner at the next token, however far that is. -/
def nextToken? (s : Scanner) : Option Scanner := s.skipGap? (s.cursor.left + 1)

/-- The scanner with every block closed. -/
def closeAll? (s : Scanner) : Option Scanner :=
  ((s.unroll (-1)).dropKey?).map (allowKey false)

/-! ### Documents -/

/-- The place after the number of a version, which has up to nine digits. -/
def versionNumberEnd? (c : Cursor) : Option Cursor :=
  let digits := c.run Char.isDigit
  if digits.isEmpty || 9 < digits.length then none else some (c.skip digits.length)

/-- A directive after its percent sign, and the place after it. One of an unknown name says nothing
about any handle. -/
def directive? (c : Cursor) : Option (Token × Cursor) :=
  let name := c.run isNameChar
  let after := c.skip name.length
  let value := after.skipWhile isBlank
  let ended (c : Cursor) : Option Cursor := c.finishToken?.filter Cursor.seesEnd
  if name.isEmpty || !after.seesGapAfter 0 then none
  else if String.ofList name = "YAML" then
    match versionNumberEnd? value with
    | some major =>
      if major.sees (· = '.') then
        ((versionNumberEnd? (major.skip 1)).bind ended).map fun after => (.version, after)
      else none
    | none => none
  else if String.ofList name = "TAG" then
    match Handle.read? value.rest with
    | some (h, rest) =>
      let after := value.skipTo rest
      if after.seesGapAfter 0 then (ended after).map fun after => (.handle h, after) else none
    | none => none
  else some (.handle ⟨"", ""⟩, after.skipLine)

/-- A line that starts with a percent sign. It closes every block. -/
def readDirective? (s : Scanner) : Option Scanner := do
  let s ← s.closeAll?
  let (token, after) ← directive? (s.cursor.skip 1)
  some ((s.put token).moveTo after)

/-- Three dashes: a document starts, and every block before it is closed. -/
def readDocumentStart? (s : Scanner) : Option Scanner := do
  let s ← s.closeAll?
  some ((s.put .documentStart).moveTo (s.cursor.skip 3))

/-- Three dots: a document ends. Nothing but a comment may follow in their line. -/
def readDocumentEnd? (s : Scanner) : Option Scanner := do
  let s ← s.closeAll?
  let after ← (s.cursor.skip 3).finishToken?
  if after.seesEnd then some ((s.put .documentEnd).moveTo after) else none

/-! ### Brackets and braces -/

/-- The greatest number of brackets and braces within each other. -/
def deepest : Nat := 255

/-- A bracket or brace that opens. What it starts may itself be a key, and a brace announces a
mapping. -/
def readOpen? (token : Token) (s : Scanner) : Option Scanner := do
  let s := s.markKey.await
  let after ← (s.cursor.skip 1).finishToken?
  let s := s.put token
  if s.depth = deepest then none
  else
    some { s with
      cursor := after, depth := s.depth + 1, keys := none :: s.keys, keyAllowed := true
      announced := s.announced || token = .openMapping }

/-- The scanner after the end of a mapping that a colon has started, if there is one. -/
def closePair (s : Scanner) : Scanner :=
  if s.pairOpen then { s.put .closeMapping with pairOpen := false, announced := false } else s

/-- A bracket or brace that closes. Within others, a colon right after it introduces a value. -/
def readClose? (token : Token) (s : Scanner) : Option Scanner := do
  let s ← s.dropKey?
  let after ← (s.cursor.skip 1).finishToken?
  let keys := if s.inBlock then s.keys else s.keys.tail
  let depth := s.depth - 1
  let valueAt := if depth = 0 then s.valueAt else some after.index
  let s := (if token = .closeSequence then s.closePair else s).put token
  some { s with
    cursor := after, depth := depth, keys := keys, keyAllowed := false, valueAt := valueAt }

/-- A comma in brackets or braces, after which a key may start. -/
def readComma? (s : Scanner) : Option Scanner := do
  let s ← s.dropKey?
  let after ← (s.cursor.skip 1).finishToken?
  some (((s.closePair.put .comma).moveTo after).allowKey true)

/-! ### Entries, keys and values -/

/-- A dash. It opens a block at its column unless one is open there. -/
def readEntry? (s : Scanner) : Option Scanner := do
  let c := s.cursor
  if !s.inBlock || !s.keyAllowed then none
  else if s.nodeColumn = some 0 && c.column = 0 && 0 ≤ s.indent then none
  else
    let s := s.roll c.column s.count .blockSequence
    let dash := c.skip 1
    let after ← dash.finishToken?
    if (dash.run isBlank).contains '\t' && after.sees (· = '-') && after.seesGapAfter 1 then none
    else
      let s := if after.sees isBreak || after.sees isFlowMark then s.await else s
      let s ← s.dropKey?
      some (((s.put .entry).moveTo after).allowKey true)

/-- The place after the gap that follows a question mark: spaces, ends of lines and comments, but
not comments alone. -/
def keyGapEnd? (gap : Bool) : Nat → Cursor → Option Cursor
  | 0, _ => none
  | fuel + 1, c =>
    if c.sees (· = ' ') then keyGapEnd? true fuel (c.skip 1)
    else if c.sees isBreak then keyGapEnd? true fuel c.skipBreak
    else if c.sees (· = '#') then keyGapEnd? gap fuel c.skipLine
    else if gap && !c.sees (· = '\t') then some c
    else none

/-- A question mark. It starts a key of a mapping, which is opened at its column if need be, or
announced between brackets. -/
def readKey? (s : Scanner) : Option Scanner := do
  let c := s.cursor
  if s.inBlock && !s.keyAllowed then none
  else
    let s ← (s.roll c.column s.count .blockMapping).dropKey?
    let after ← keyGapEnd? false (c.left + 1) (c.skip 1)
    let s := ((s.put .key).moveTo after).allowKey s.inBlock
    some { s with announced := s.announced || !s.inBlock }

/-- A colon. If a key may have started before it, the tokens for the mapping and the key are put
there; otherwise the key is left out. -/
def readValue? (s : Scanner) : Option Scanner := do
  let c := s.cursor
  let colon := c.skip 1
  let blanks := colon.run isBlank
  let next := colon.skipWhile isBlank
  let startsPair := !s.inBlock && !s.announced
  let s := { s with pairOpen := startsPair }
  if blanks.head? = some '\t' && !blanks.contains ' ' && next.sees isNameChar then none
  else
    match s.keyPlace? with
    | some place =>
      if startsPair && place.cursor.line < c.line then none
      else
        -- The mapping goes before its key, and both go where the key has started.
        let s := s.insert place.position .key
        let s := if startsPair then s.insert place.position .openMapping else s
        let s := s.roll place.cursor.column place.position .blockMapping
        some ((((s.await.setKeyPlace none).put .value).moveTo colon).allowKey false)
    | none =>
      if s.inBlock && !s.keyAllowed then none
      else
        let s := if startsPair then s.put .openMapping else s
        let s := (s.roll c.column s.count .blockMapping).await
        some (((s.put .value).moveTo colon).allowKey s.inBlock)

/-! ### Nodes -/

/-- The name at a place, which goes on to a blank, the end of the line, a bracket, a brace, a comma
or a byte-order mark. -/
def nodeName (c : Cursor) : List Char :=
  c.run fun x => !(isBlank x || isBreak x || isFlowMark x || x.toNat = 0xFEFF)

/-- An anchor or an alias, which may start a key. -/
def readName? (token : String → Token) (s : Scanner) : Option Scanner :=
  let s := s.markKey.allowKey false
  let column := s.cursor.column
  let start := s.cursor.skip 1
  let name := nodeName start
  if name.isEmpty then none
  else
    let s := (s.put (token (String.ofList name))).moveTo (start.skip name.length)
    some { s with nodeColumn := some column }

/-- A tag, which may start a key. -/
def readTag? (s : Scanner) : Option Scanner := do
  let s := s.markKey.allowKey false
  let column := s.cursor.column
  let (t, rest) ← Tag.read? s.cursor.rest
  let after := s.cursor.skipTo rest
  if after.seesGapAfter 0 || (!s.inBlock && after.sees isFlowMark) then
    let s := (s.put (.tag t)).moveTo after
    some { s with nodeColumn := some column }
  else none

/-- A block scalar, after which a key may start. -/
def readBlockScalar? (literal : Bool) (s : Scanner) : Option Scanner := do
  let s := s.markKey.settle
  let (text, after) ← readBlock? literal s.indent s.cursor
  some (((s.put (.scalar false text)).moveTo after).allowKey true)

/-- A scalar in quotes. What follows in its line is a comment, or marks the scalar as a key or an
item. -/
def readQuotedScalar? (single : Bool) (s : Scanner) : Option Scanner := do
  let s := s.markKey.allowKey false
  let (text, closed) ← readQuoted? single s.indent s.cursor
  let after ← closed.finishToken?
  let beforeColon := after.sees (· = ':') && (!s.inBlock || s.cursor.line = after.line)
  let beforeMark := !s.inBlock && after.sees fun x => x = ',' || x = ']' || x = '\x7d'
  if after.seesEnd || beforeColon || beforeMark then
    let s ← ((s.put (.scalar false text)).moveTo after).nextToken?
    some { s with valueAt := some s.cursor.index }
  else none

/-- A scalar without quotes. In brackets it may not stand left of what surrounds them. -/
def readPlainScalar? (s : Scanner) : Option Scanner := do
  let s := s.markKey.settle
  if !s.inBlock && s.cursor.column < s.indent + 1 then none
  else
    let (text, after) ← readPlain? (!s.inBlock) (s.indent + 1) s.cursor
    some (((s.put (.scalar true text)).moveTo after).allowKey after.leading)

/-! ### All tokens -/

/-- The scanner after the token that starts with a character. -/
def readToken? (s : Scanner) (first : Char) : Option Scanner :=
  let c := s.cursor
  let gap := c.seesGapAfter 1
  let flow := !s.inBlock
  if c.column = 0 && first = '%' then s.readDirective?
  else if c.seesMark '-' then s.readDocumentStart?
  else if c.seesMark '.' then s.readDocumentEnd?
  else if c.column < s.indent then none
  else
    match first with
    | '[' => s.readOpen? .openSequence
    | '\x7b' => s.readOpen? .openMapping
    | ']' => s.readClose? .closeSequence
    | '\x7d' => s.readClose? .closeMapping
    | ',' => s.readComma?
    | '*' => s.readName? .alias
    | '&' => s.readName? .anchor
    | '!' => s.readTag?
    | '\'' => s.readQuotedScalar? true
    | '"' => s.readQuotedScalar? false
    | '-' => if gap then s.readEntry? else s.readPlainScalar?
    | '?' => if gap then s.readKey? else s.readPlainScalar?
    | ':' =>
      if gap || (flow && (c.seesAfter 1 isFlowMark || s.valueAt = some c.index)) then s.readValue?
      else s.readPlainScalar?
    | '|' => if flow then s.readPlainScalar? else s.readBlockScalar? true
    | '>' => if flow then s.readPlainScalar? else s.readBlockScalar? false
    | '%' | '@' => none
    | _ => if first.toNat = 0x60 then none else s.readPlainScalar?

/-- The tokens from a place on. -/
def run : Nat → Scanner → Option (List Token)
  | 0, _ => none
  | fuel + 1, s => do
    let s ← (← s.nextToken?).dropStaleKey?
    let s := s.unroll s.cursor.column
    match s.cursor.rest with
    | [] =>
      let s ← s.closeAll?
      some s.found.reverse
    | first :: _ => run fuel (← s.readToken? first)

end Scanner

/-- The tokens of a text. A zero character ends the text. -/
def tokens? (text : String) : Option (List Token) :=
  let cs := text.toList.takeWhile fun c => c.toNat ≠ 0
  Scanner.run (2 * cs.length + 2) { cursor := .start cs }

end TupleClient.Yaml
