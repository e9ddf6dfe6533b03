import TupleClient.Text.Hex
import TupleClient.Yaml.Cursor

/-!
# Tags

A tag names the type of a value. It consists of a handle, which stands for a common beginning of
types, and the rest of the type; or the whole type is written between pointed brackets. What a
handle stands for is said by a directive at the beginning of a document. Unless a directive says
otherwise, two exclamation marks stand for the types of the format itself, and one of them for types
that are private to the document.

## Main definitions

* `Yaml.Tag` and `Yaml.Tag.read?` — a tag, and the one at the beginning of a text
* `Yaml.Handle` and `Yaml.Handle.read?` — a handle with what it stands for, as a directive says it
* `Yaml.Tag.type?` — the name of the type among those of the format itself
-/

namespace TupleClient.Yaml

/-- Whether a character may stand in the name of a handle or a directive. -/
def isNameChar (c : Char) : Bool := c.isAlphanum || c = '_' || c = '-'

/-- Whether a character may stand in a type. -/
def isTypeChar (c : Char) : Bool :=
  c.isAlphanum || "-#;/?:@&=+$,_.!~*'()[]%".toList.contains c

/-- Whether a character may stand in a type that is not between pointed brackets. -/
def isBareTypeChar (c : Char) : Bool := isTypeChar c && !isFlowMark c && c ≠ '!'

/-! ### Escapes -/

/-- The byte that a percent sign and two digits stand for, and what follows them. -/
def escapedByte? : List Char → Option (Nat × List Char)
  | '%' :: high :: low :: rest =>
    match Text.hexValue? high, Text.hexValue? low with
    | some h, some l => some (16 * h + l, rest)
    | _, _ => none
  | _ => none

/-- The character that escaped bytes stand for, and what follows them. A byte below 128 is the code
point of a character, and so are two bytes that mark themselves as the first and the second one. -/
def escapedChar? (cs : List Char) : Option (Char × List Char) :=
  let char? (code : Nat) : Option Char :=
    if (Char.ofNat code).toNat = code then some (Char.ofNat code) else none
  match escapedByte? cs with
  | none => none
  | some (first, rest) =>
    if first < 0x80 then (char? first).map fun c => (c, rest)
    else if 0xC0 ≤ first && first < 0xE0 then
      match escapedByte? rest with
      | some (second, rest) =>
        if 0x80 ≤ second && second < 0xC0 then
          (char? (256 * first + second)).map fun c => (c, rest)
        else none
      | none => none
    else none

/-- The characters for which `p` holds at the beginning of a text, with escaped ones read, and what
follows them. -/
def readType? (p : Char → Bool) : Nat → List Char → Option (List Char × List Char)
  | 0, _ => none
  | _, [] => some ([], [])
  | fuel + 1, c :: rest =>
    if c = '%' then
      match escapedChar? (c :: rest) with
      | some (c, rest) => (readType? p fuel rest).map fun (text, rest) => (c :: text, rest)
      | none => none
    else if p c then (readType? p fuel rest).map fun (text, rest) => (c :: text, rest)
    else some ([], c :: rest)

/-- The characters of a type at the beginning of a text, and what follows them. -/
def typeAt? (p : Char → Bool) (cs : List Char) : Option (List Char × List Char) :=
  readType? p (cs.length + 1) cs

/-! ### Handles -/

/-- A handle and what it stands for. -/
structure Handle where
  name : String
  meaning : String
deriving DecidableEq

/-- The name of a handle that starts with an exclamation mark, and what follows it. It has another
exclamation mark at its end, or else it may be the beginning of a type. -/
def handleName (cs : List Char) : List Char × List Char :=
  let name := '!' :: (cs.drop 1).takeWhile isNameChar
  match cs.drop name.length with
  | '!' :: rest => (name ++ ['!'], rest)
  | rest => (name, rest)

/-- Whether the name of a handle has an exclamation mark at both ends. -/
def isClosedName (name : List Char) : Bool := 2 ≤ name.length && name.getLast? = some '!'

/-- What a handle stands for, as it is written, and what follows it. -/
def meaningAt? (cs : List Char) : Option (List Char × List Char) :=
  match cs with
  | '!' :: rest => (typeAt? isTypeChar rest).map fun (text, rest) => ('!' :: text, rest)
  | c :: _ => if isBareTypeChar c then typeAt? isTypeChar cs else none
  | [] => none

/-- A handle and what it stands for, as a directive says it, and what follows them. -/
def Handle.read? (cs : List Char) : Option (Handle × List Char) :=
  let (name, rest) := handleName cs
  if cs.head? ≠ some '!' then none
  else if name ≠ ['!'] && !isClosedName name then none
  else
    (meaningAt? (rest.dropWhile isBlank)).map fun (meaning, rest) =>
      (⟨String.ofList name, String.ofList meaning⟩, rest)

/-! ### Tags -/

/-- A tag as it is written. -/
structure Tag where
  handle : String
  rest : String
deriving DecidableEq

namespace Tag

/-- The tag that starts with an exclamation mark at the beginning of a text, and what follows it. -/
def read? (cs : List Char) : Option (Tag × List Char) :=
  match cs with
  | '!' :: '<' :: rest =>
    match typeAt? isTypeChar rest with
    | some (type, '>' :: rest) => some (⟨"", String.ofList type⟩, rest)
    | _ => none
  | _ =>
    let (name, rest) := handleName cs
    match typeAt? isBareTypeChar rest with
    | none => none
    | some (type, rest) =>
      if isClosedName name then
        if type.isEmpty then none else some (⟨String.ofList name, String.ofList type⟩, rest)
      else
        -- What looked like a handle is the beginning of a private type.
        let type := name.drop 1 ++ type
        if type.isEmpty then some (⟨"", "!"⟩, rest) else some (⟨"!", String.ofList type⟩, rest)

/-- What all types of the format itself start with. -/
def ownTypes : String := "tag:yaml.org,2002:"

/-- The name of the type among those of the format itself, empty if it is another one. A handle of
which nothing is known is an error. -/
def type? (declared : Option Handle) (t : Tag) : Option String :=
  let known : Option String := match declared with
    | some h => if h.name = t.handle then some h.meaning else none
    | none => none
  match known with
  | some meaning => some (if meaning = ownTypes then t.rest else "")
  | none =>
    if t.handle = "!!" then some t.rest
    else if isClosedName t.handle.toList then none
    else some ""

end Tag

end TupleClient.Yaml
