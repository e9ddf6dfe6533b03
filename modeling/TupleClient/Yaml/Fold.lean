import TupleClient.Text.Hex
import TupleClient.Yaml.Cursor

/-!
# Scalars over several lines

A scalar with or without quotes may go on over several lines. A single end of a line then stands
for a space, and each further one for itself; blanks around ends of lines count for nothing. Lines
that go on have to be indented, and indented by spaces.

## Main definitions

* `Yaml.Gap` — what separates two parts of a scalar
* `Yaml.readPlain?` — a scalar without quotes
* `Yaml.readQuoted?` — a scalar in single or double quotes
-/

namespace TupleClient.Yaml

/-- What separates two parts of a scalar. -/
structure Gap where
  /-- The blanks before the first end of a line. -/
  blanks : List Char := []
  breaks : Nat := 0
  /-- Whether an end of a line that stands for nothing has come before. -/
  escaped : Bool := false

namespace Gap

/-- What a gap stands for. -/
def text (g : Gap) : List Char :=
  if g.escaped then List.replicate g.breaks '\n'
  else
    match g.breaks with
    | 0 => g.blanks
    | 1 => [' ']
    | breaks + 1 => List.replicate breaks '\n'

/-- The rest of a gap and the place after it. A tab in the indentation is an error, except that it
may stand in an empty line where `lenient`. The end of such a line does not count if there is a
comment in it. -/
def read? (lenient : Bool) (indent : Int) : Nat → Gap → Cursor → Option (Gap × Cursor)
  | 0, _, _ => none
  | fuel + 1, g, c =>
    if c.sees isBreak then read? lenient indent fuel { g with breaks := g.breaks + 1 } c.skipBreak
    else if !c.sees isBlank then some (g, c)
    else if !g.escaped && g.breaks = 0 then
      read? lenient indent fuel { g with blanks := c.run isBlank } (c.skipWhile isBlank)
    else if c.sees (· = '\t') && c.column < indent then
      match c.finishToken? with
      | some after =>
        let commented := (c.skipWhile isBlank).sees (· = '#')
        if !(lenient && after.seesEnd) then none
        else if commented && !after.atEnd then read? lenient indent fuel g after.skipBreak
        else read? lenient indent fuel g after
      | none => none
    else read? lenient indent fuel g (c.skip 1)

end Gap

/-! ### Without quotes -/

/-- The part of a scalar without quotes that lies before the first gap or mark. -/
def plainRun (inFlow : Bool) : List Char → List Char
  | [] => []
  | c :: rest =>
    let endsKey := rest.head?.all (fun d => isBlank d || isBreak d) ||
      (inFlow && rest.head?.any isFlowMark)
    if isBlank c || isBreak c || (inFlow && isFlowMark c) || (c = ':' && endsKey) then []
    else c :: plainRun inFlow rest

/-- A scalar without quotes that goes on after what has been found, which is given last character
first, and after a gap; and the place after it. -/
def readPlainFrom? (inFlow : Bool) (indent : Int) :
    Nat → List Char → Gap → Cursor → Option (String × Cursor)
  | 0, _, _, _ => none
  | fuel + 1, found, gap, c =>
    let run := plainRun inFlow c.rest
    -- A mark of a document or a comment ends the scalar, and the gap before it is left out.
    if c.seesDocumentMark || c.sees (· = '#') then some (String.ofList found.reverse, c)
    else if inFlow && c.sees (· = '-') && c.seesAfter 1 isFlowMark then none
    else if run.isEmpty then some (String.ofList found.reverse, c)
    else
      let found := run.reverse ++ (gap.text.reverse ++ found)
      match Gap.read? true indent (c.left + 1) {} (c.skip run.length) with
      | none => none
      | some (gap, after) =>
        if gap.blanks.isEmpty && gap.breaks = 0 then some (String.ofList found.reverse, after)
        else if !inFlow && after.column < indent then some (String.ofList found.reverse, after)
        else readPlainFrom? inFlow indent fuel found gap after

/-- The scalar without quotes at a place, and the place after it. Its further lines start at column
`indent` or later. -/
def readPlain? (inFlow : Bool) (indent : Int) (c : Cursor) : Option (String × Cursor) :=
  readPlainFrom? inFlow indent (c.left + 1) [] {} c

/-! ### In quotes -/

/-- The character of so many hexadecimal digits. -/
def codeChar? (digits : List Char) (count : Nat) : Option Char :=
  if digits.length < count then none
  else
    ((digits.take count).foldlM (fun n d => (Text.hexValue? d).map fun v => 16 * n + v) 0).bind
      fun code => if (Char.ofNat code).toNat = code then some (Char.ofNat code) else none

/-- The character of an escape, and how many characters the escape has after its backslash. -/
def escape? : List Char → Option (Char × Nat)
  | [] => none
  | mark :: digits =>
    let simple (code : Nat) : Option (Char × Nat) := some (Char.ofNat code, 1)
    match mark with
    | '0' => simple 0
    | 'a' => simple 0x07
    | 'b' => simple 0x08
    | 't' | '\t' => simple 0x09
    | 'n' => simple 0x0A
    | 'v' => simple 0x0B
    | 'f' => simple 0x0C
    | 'r' => simple 0x0D
    | 'e' => simple 0x1B
    | 'N' => simple 0x85
    | '_' => simple 0xA0
    | 'L' => simple 0x2028
    | 'P' => simple 0x2029
    | 'x' => (codeChar? digits 2).map fun c => (c, 3)
    | 'u' => (codeChar? digits 4).map fun c => (c, 5)
    | 'U' => (codeChar? digits 8).map fun c => (c, 9)
    | _ => if " \"/\\".toList.contains mark then some (mark, 1) else none

/-- What has been found in quotes up to the next gap or the closing quote, last character first,
with the place after it, and whether it ends in an escaped end of a line. -/
def quotedRun? (single : Bool) :
    Nat → List Char → Cursor → Option (List Char × Cursor × Bool)
  | 0, _, _ => none
  | fuel + 1, found, c =>
    match c.rest with
    | [] => some (found, c, false)
    | x :: rest =>
      if isBlank x || isBreak x then some (found, c, false)
      else if single then
        if x ≠ '\'' then quotedRun? single fuel (x :: found) (c.skip 1)
        else if rest.head? = some '\'' then quotedRun? single fuel (x :: found) (c.skip 2)
        else some (found, c, false)
      else if x = '"' then some (found, c, false)
      else if x ≠ '\\' then quotedRun? single fuel (x :: found) (c.skip 1)
      else if rest.head?.any isBreak then some (found, (c.skip 1).skipBreak, true)
      else
        match escape? rest with
        | some (y, count) => quotedRun? single fuel (y :: found) (c.skip (count + 1))
        | none => none

/-- A scalar in quotes that goes on after what has been found, which is given last character first;
and the place after the closing quote. -/
def readQuotedFrom? (single : Bool) (indent : Int) :
    Nat → List Char → Cursor → Option (String × Cursor)
  | 0, _, _ => none
  | fuel + 1, found, c =>
    if c.seesDocumentMark || c.atEnd || c.column < indent then none
    else
      match quotedRun? single (c.left + 1) found c with
      | none => none
      | some (found, after, escaped) =>
        if after.sees (· = if single then '\'' else '"') then
          some (String.ofList found.reverse, after.skip 1)
        else
          match Gap.read? false indent (c.left + 1) { escaped := escaped } after with
          | none => none
          | some (gap, after) =>
            readQuotedFrom? single indent fuel (gap.text.reverse ++ found) after

/-- The scalar in quotes at a place, and the place after it. -/
def readQuoted? (single : Bool) (indent : Int) (c : Cursor) : Option (String × Cursor) :=
  readQuotedFrom? single indent (c.left + 1) [] (c.skip 1)

end TupleClient.Yaml
