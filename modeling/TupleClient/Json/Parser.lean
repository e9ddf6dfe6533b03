import TupleClient.Json.Number
import TupleClient.Text.Hex

/-!
# Reading data text

Text is read in two steps, each a machine that takes one item at a time. The scanner takes
characters and yields tokens; the builder takes tokens and keeps the containers that are still
open. A number or a bare word ends where a blank, a mark or a quote follows.

## Main definitions

* `Json.Token`, `Json.Scanner` — the tokens, and what the scanner is in the middle of
* `Json.Builder` — the open containers, and what may come next
* `Json.parse?` — the value that a text stands for, with a limit on the depth of nesting
-/

namespace TupleClient.Json

/-- A token of data text. -/
inductive Token where
  | openArray
  | closeArray
  | openObject
  | closeObject
  | comma
  | colon
  | text (value : String)
  | scalar (value : Json)

/-- What the scanner is in the middle of. Characters are kept last to first. -/
inductive Scanner where
  | between
  | word (chars : List Char)
  | text (chars : List Char)
  | escape (chars : List Char)
  /-- Inside a four-digit escape, after the first half of a pair if there was one. -/
  | code (chars : List Char) (first : Option Nat) (digits : List Char)
  /-- After the first half of a pair: a second escape has to follow. -/
  | half (chars : List Char) (first : Nat)
  | halfEscape (chars : List Char) (first : Nat)

namespace Scanner

/-- A blank between tokens. -/
def isSpace (c : Char) : Bool :=
  c = ' ' || c = '\t' || c = '\n' || c = '\r'

/-- The token of a mark. -/
def mark? (c : Char) : Option Token :=
  if c = '[' then some .openArray
  else if c = ']' then some .closeArray
  else if c = '\x7b' then some .openObject
  else if c = '\x7d' then some .closeObject
  else if c = ',' then some .comma
  else if c = ':' then some .colon
  else none

/-- The token of a bare word, given last character first. -/
def word? (chars : List Char) : Option Token :=
  let cs := chars.reverse
  if cs = ['n', 'u', 'l', 'l'] then some (.scalar .null)
  else if cs = ['t', 'r', 'u', 'e'] then some (.scalar (.bool true))
  else if cs = ['f', 'a', 'l', 's', 'e'] then some (.scalar (.bool false))
  else (number? cs).map .scalar

/-- The character of a one-letter escape. -/
def escape? (c : Char) : Option Char :=
  if c = '"' || c = '\\' || c = '/' then some c
  else if c = 'b' then some '\x08'
  else if c = 'f' then some '\x0c'
  else if c = 'n' then some '\n'
  else if c = 'r' then some '\r'
  else if c = 't' then some '\t'
  else none

/-- The value of hexadecimal digits. -/
def hexValue? (cs : List Char) : Option Nat :=
  cs.foldlM (fun n c => (Text.hexValue? c).map (16 * n + ·)) 0

/-- The scanner after the fourth digit of an escape. The two halves of a pair stand for one
character, and neither half may stand alone. -/
def finishCode (chars : List Char) (first : Option Nat) (code : Nat) : Option Scanner :=
  let isFirst := 0xD800 ≤ code && code < 0xDC00
  let isSecond := 0xDC00 ≤ code && code < 0xE000
  match first with
  | none =>
    -- A first half waits for its second half; a second half without a first one is refused.
    if isFirst then some (.half chars code)
    else if isSecond then none
    else some (.text (Char.ofNat code :: chars))
  | some high =>
    if isSecond then
      some (.text (Char.ofNat (0x10000 + (high - 0xD800) * 0x400 + (code - 0xDC00)) :: chars))
    else none

/-- One character between tokens. -/
def start (c : Char) : Option (Scanner × List Token) :=
  if isSpace c then some (.between, [])
  else if c = '"' then some (.text [], [])
  else match mark? c with
    | some token => some (.between, [token])
    | none => some (.word [c], [])

/-- One character read: the scanner after it, and the tokens that it completes. -/
def step : Scanner → Char → Option (Scanner × List Token)
  | .between, c => start c
  | .word chars, c =>
    if isSpace c || c = '"' || (mark? c).isSome then do
      let token ← word? chars
      let (next, tokens) ← start c
      some (next, token :: tokens)
    else some (.word (c :: chars), [])
  | .text chars, c =>
    if c = '"' then some (.between, [.text (String.ofList chars.reverse)])
    else if c = '\\' then some (.escape chars, [])
    else if c.toNat < 0x20 then none
    else some (.text (c :: chars), [])
  | .escape chars, c =>
    if c = 'u' then some (.code chars none [], [])
    else (escape? c).map fun e => (.text (e :: chars), [])
  | .code chars first digits, c =>
    let digits := c :: digits
    if digits.length < 4 then
      if (Text.hexValue? c).isSome then some (.code chars first digits, []) else none
    else do
      let code ← hexValue? digits.reverse
      let next ← finishCode chars first code
      some (next, [])
  | .half chars first, c => if c = '\\' then some (.halfEscape chars first, []) else none
  | .halfEscape chars first, c => if c = 'u' then some (.code chars (some first) [], []) else none

/-- The last token, if the text may end here. -/
def finish : Scanner → Option (List Token)
  | .between => some []
  | .word chars => (word? chars).map fun token => [token]
  | _ => none

/-- The tokens of the characters that are left, after those already found, last one first. -/
def run (scanner : Scanner) (found : List Token) : List Char → Option (List Token)
  | [] => (finish scanner).map fun last => (last.reverse ++ found).reverse
  | c :: rest => do
    let (next, tokens) ← step scanner c
    run next (tokens.reverse ++ found) rest

end Scanner

/-- The tokens of a text. -/
def tokens? (s : String) : Option (List Token) :=
  Scanner.run .between [] s.toList

/-- A container that is still open. Its members are kept last to first. -/
inductive Container where
  | items (done : List Json)
  | members (done : List (String × Json))
  | member (done : List (String × Json)) (name : String)

/-- What may come next. -/
inductive Expectation where
  | value
  | firstItem
  | name
  | firstName
  | colon (name : String)
  | separator
  | nothing (value : Json)

/-- The open containers, innermost first, and what may come next. -/
structure Builder where
  containers : List Container
  expects : Expectation

namespace Builder

/-- A complete value put into the innermost container. -/
def put (containers : List Container) (value : Json) : Option Builder :=
  match containers with
  | [] => some ⟨[], .nothing value⟩
  | .items done :: outer => some ⟨.items (value :: done) :: outer, .separator⟩
  | .member done name :: outer => some ⟨.members ((name, value) :: done) :: outer, .separator⟩
  | .members _ :: _ => none

/-- The innermost container closed. -/
def close (b : Builder) (token : Token) : Option Builder :=
  match token, b.containers with
  | .closeArray, .items done :: outer => put outer (.arr done.reverse)
  | .closeObject, .members done :: outer => put outer (object done.reverse)
  | _, _ => none

/-- A container opened, unless it lies too deep. -/
def push (limit : Nat) (b : Builder) (container : Container) (expects : Expectation) :
    Option Builder :=
  if b.containers.length < limit then some ⟨container :: b.containers, expects⟩ else none

/-- A token where a value may start. -/
def value (limit : Nat) (b : Builder) : Token → Option Builder
  | .openArray => b.push limit (.items []) .firstItem
  | .openObject => b.push limit (.members []) .firstName
  | .text s => put b.containers (.str s)
  | .scalar v => put b.containers v
  | _ => none

/-- One token taken. -/
def step (limit : Nat) (b : Builder) (token : Token) : Option Builder :=
  match b.expects, token with
  | .value, token => b.value limit token
  | .firstItem, .closeArray => b.close token
  | .firstItem, token => b.value limit token
  | .firstName, .closeObject => b.close token
  | .firstName, .text name => some ⟨b.containers, .colon name⟩
  | .name, .text name => some ⟨b.containers, .colon name⟩
  | .colon name, .colon =>
    match b.containers with
    | .members done :: outer => some ⟨.member done name :: outer, .value⟩
    | _ => none
  | .separator, .comma =>
    match b.containers with
    | .items _ :: _ => some ⟨b.containers, .value⟩
    | .members _ :: _ => some ⟨b.containers, .name⟩
    | _ => none
  | .separator, token => b.close token
  | _, _ => none

/-- The value that the tokens that are left complete. -/
def run (limit : Nat) (b : Builder) : List Token → Option Json
  | [] => match b.expects with
    | .nothing v => some v
    | _ => none
  | token :: rest => (b.step limit token).bind fun next => next.run limit rest

end Builder

/-- The value that a text stands for, if no more than `limit` containers are open at once. -/
def parse? (limit : Nat) (s : String) : Option Json :=
  (tokens? s).bind (Builder.run limit ⟨[], .value⟩)

end TupleClient.Json
