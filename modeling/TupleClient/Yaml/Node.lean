import TupleClient.Yaml.Scalar
import TupleClient.Yaml.Token

/-!
# Values of YAML

A text holds documents, each of which is a value: a scalar, a list or a mapping. A value may be
given a name, by which it can be repeated later on. What is left out is null.

Any value may be a key, but the keys of a mapping are all different. A scalar that is not of the
type named for it is unusable: it counts as null, and as a key it is passed over, so that what would
be its value is the next key. A key that is left without a value is passed over too. What is
repeated before it is complete is unusable as well.

## Main definitions

* `Yaml.Node` — the values
* `Yaml.Gathered` — the entries of a mapping as they are gathered
* `Yaml.readNode?` — the value at the beginning of tokens
* `Yaml.documents?` — the values of a text
-/

namespace TupleClient.Yaml

/-- A value. -/
inductive Node where
  /-- A value that cannot be used. -/
  | unusable
  | scalar (value : Scalar)
  | list (items : List Node)
  | mapping (entries : List (Node × Node))
deriving Inhabited

namespace Node

/-- What stands for a value that is left out. -/
def null : Node := .scalar .null

/-- Whether a value cannot be used. -/
def isUnusable : Node → Bool
  | unusable => true
  | _ => false

mutual

/-- Whether two values are the same, with the entries of mappings in the same order. -/
def same : Node → Node → Bool
  | unusable, unusable => true
  | scalar a, scalar b => a == b
  | list items, list others => sameItems items others
  | mapping entries, mapping others => sameEntries entries others
  | _, _ => false

/-- Whether two lists hold the same values. -/
def sameItems : List Node → List Node → Bool
  | [], [] => true
  | a :: items, b :: others => same a b && sameItems items others
  | _, _ => false

/-- Whether two lists hold the same entries. -/
def sameEntries : List (Node × Node) → List (Node × Node) → Bool
  | [], [] => true
  | (key, value) :: entries, (otherKey, other) :: others =>
    same key otherKey && same value other && sameEntries entries others
  | _, _ => false

end

end Node

/-- The entries of a mapping as they are gathered, and the key that awaits its value. -/
structure Gathered where
  entries : List (Node × Node) := []
  key : Option Node := none

namespace Gathered

/-- The entries after one more value, which is a key or belongs to the key that awaits it. -/
def add? (g : Gathered) (node : Node) : Option Gathered :=
  match g.key with
  | none => some (if node.isUnusable then g else { g with key := some node })
  | some key =>
    if g.entries.any (·.1.same key) then none else some ⟨g.entries ++ [(key, node)], none⟩

/-- The mapping of the entries. A key that still awaits its value is left out. -/
def toNode (g : Gathered) : Node := .mapping g.entries

end Gathered

/-- The tokens to come, and what is known about the document. -/
structure Reader where
  tokens : List Token
  /-- The handle of the last directive. -/
  handle : Option Handle := none
  /-- The names of values, each with its number, last one first. -/
  names : List (String × Nat) := []
  /-- The values that have names, by number, as far as they are complete. -/
  values : List (Nat × Node) := []

namespace Reader

/-- What precedes a value: the number of its name, and the name of its type. -/
structure Properties where
  number : Option Nat := none
  type : Option String := none

/-- Whether nothing precedes a value. -/
def Properties.isEmpty (p : Properties) : Bool := p.number.isNone && p.type.isNone

/-- The reader without the next token. -/
def next (r : Reader) : Reader := { r with tokens := r.tokens.tail }

/-- Whether one of some tokens follows. -/
def sees (r : Reader) (tokens : List Token) : Bool := r.tokens.head?.any tokens.contains

/-- The name at the beginning of the tokens, if there is one, which gets a number of its own. A name
that has been given before means the new value from here on. -/
def takeName (p : Properties) (r : Reader) : Properties × Reader :=
  match r.tokens with
  | .anchor name :: rest =>
    let number := r.names.length
    let names := (name, number) :: r.names
    ({ p with number := some number }, { r with tokens := rest, names := names })
  | _ => (p, r)

/-- The type at the beginning of the tokens, if there is one. -/
def takeType? (p : Properties) (r : Reader) : Option (Properties × Reader) :=
  match r.tokens with
  | .tag t :: rest =>
    (t.type? r.handle).map fun type => ({ p with type := some type }, { r with tokens := rest })
  | _ => some (p, r)

/-- What precedes the next value, in either order. -/
def properties? (r : Reader) : Option (Properties × Reader) :=
  match r.tokens with
  | .anchor _ :: _ =>
    let (p, r) := takeName {} r
    takeType? p r
  | _ => (takeType? {} r).map fun (p, r) => if p.isEmpty then (p, r) else takeName p r

/-- The reader with a value under the number of its name. -/
def remember (r : Reader) (number : Option Nat) (node : Node) : Reader :=
  match number with
  | some number => { r with values := (number, node) :: r.values }
  | none => r

/-- The value that was last given a name, which is unusable as long as it is not complete. -/
def named? (r : Reader) (name : String) : Option Node :=
  (r.names.lookup name).map fun number => (r.values.lookup number).getD .unusable

/-- The value of a scalar. One in quotes is a text whatever its type. -/
def scalarOf (plain : Bool) (type : Option String) (text : String) : Node :=
  if plain then
    match type with
    | some type => ((Scalar.ofTagged? type text).map Node.scalar).getD .unusable
    | none => .scalar (.ofPlain text)
  else .scalar (.text text)

end Reader

open Reader

mutual

/-- The value at the beginning of tokens. It may be a block where `block`, and a sequence of entries
without a block of its own where `entries`. -/
def readNode? : Nat → Bool → Bool → Reader → Option (Node × Reader)
  | 0, _, _, _ => none
  | fuel + 1, block, entries, r =>
    match r.tokens with
    | .alias name :: _ => (r.named? name).map fun node => (node, r.next)
    | _ =>
      r.properties?.bind fun (p, r) =>
        (readContent? fuel block entries p r).map fun (node, r) => (node, r.remember p.number node)

/-- The value that some properties precede. -/
def readContent? : Nat → Bool → Bool → Properties → Reader → Option (Node × Reader)
  | 0, _, _, _, _ => none
  | fuel + 1, block, entries, p, r =>
    -- A name or a type without a value after it stands for the value of an empty scalar.
    let missing := if p.isEmpty then none else some (scalarOf true p.type "", r)
    match r.tokens with
    | .scalar plain text :: _ => some (scalarOf plain p.type text, r.next)
    | .openSequence :: _ => readItems? fuel true [] r.next
    | .openMapping :: _ => readPairs? fuel true {} r.next
    | .entry :: _ => if entries then readEntries? fuel false [] r else missing
    | .blockSequence :: _ => if block then readEntries? fuel true [] r.next else missing
    | .blockMapping :: _ => if block then readBlockPairs? fuel {} r.next else missing
    | _ => missing

/-- A value, or null if one of some tokens follows instead. -/
def readOptional? : Nat → Bool → Bool → List Token → Reader → Option (Node × Reader)
  | 0, _, _, _, _ => none
  | fuel + 1, block, entries, ends, r =>
    if r.sees ends then some (.null, r) else readNode? fuel block entries r

/-- A value after its mark, or null if there is no mark. -/
def readValue? : Nat → Bool → List Token → Reader → Option (Node × Reader)
  | 0, _, _, _ => none
  | fuel + 1, block, ends, r =>
    if r.sees [.value] then readOptional? fuel block block ends r.next else some (.null, r)

/-- The entries of a block sequence. Without a block of its own it ends where no entry follows. -/
def readEntries? : Nat → Bool → List Node → Reader → Option (Node × Reader)
  | 0, _, _, _ => none
  | fuel + 1, closed, items, r =>
    let ends := if closed then [.entry, .blockEnd] else [.entry, .key, .value, .blockEnd]
    match r.tokens with
    | .entry :: _ =>
      (readOptional? fuel true false ends r.next).bind
        fun (item, r) => readEntries? fuel closed (items ++ [item]) r
    | .blockEnd :: _ => some (.list items, if closed then r.next else r)
    | _ => if closed then none else some (.list items, r)

/-- The entries of a block mapping. A key may be left out. -/
def readBlockPairs? : Nat → Gathered → Reader → Option (Node × Reader)
  | 0, _, _ => none
  | fuel + 1, g, r =>
    let ends := [.key, .value, .blockEnd]
    if r.sees [.blockEnd] then some (g.toNode, r.next)
    else if !r.sees [.key, .value] then none
    else
      let key := if r.sees [.key] then readOptional? fuel true true ends r.next else some (.null, r)
      key.bind fun (key, r) =>
        (readValue? fuel true ends r).bind fun (value, r) =>
          ((g.add? key).bind (·.add? value)).bind fun g => readBlockPairs? fuel g r

/-- The items of a sequence in brackets. An item may be a single entry of a mapping. If its key is
left out, the token that follows instead is passed over. -/
def readItems? : Nat → Bool → List Node → Reader → Option (Node × Reader)
  | 0, _, _, _ => none
  | fuel + 1, first, items, r =>
    if r.sees [.closeSequence] then some (.list items, r.next)
    else if !first && !r.sees [.comma] then none
    else
      let r := if first then r else r.next
      match r.tokens with
      | .closeSequence :: _ => some (.list items, r.next)
      | .key :: _ =>
        let lacksKey := r.next.sees [.value, .comma, .closeSequence]
        let key := if lacksKey then some (.null, r.next.next) else readNode? fuel false false r.next
        key.bind fun (key, r) =>
          (readValue? fuel false [.comma, .closeSequence] r).bind fun (value, r) =>
            ((({} : Gathered).add? key).bind (·.add? value)).bind fun g =>
              readItems? fuel false (items ++ [g.toNode]) r
      | _ =>
        (readNode? fuel false false r).bind fun (item, r) =>
          readItems? fuel false (items ++ [item]) r

/-- The entries of a mapping in braces. A key may be left out before a colon or after a question
mark, and its value may be left out. -/
def readPairs? : Nat → Bool → Gathered → Reader → Option (Node × Reader)
  | 0, _, _, _ => none
  | fuel + 1, first, g, r =>
    if r.sees [.closeMapping] then some (g.toNode, r.next)
    else if !first && !r.sees [.comma] then none
    else
      let r := if first then r else r.next
      let ends := [.comma, .closeMapping]
      if r.sees [.closeMapping] then some (g.toNode, r.next)
      else
        let marked := r.sees [.key, .value]
        let key :=
          if r.sees [.key] then readOptional? fuel false false (.value :: ends) r.next
          else readOptional? fuel false false [.value] r
        key.bind fun (key, r) =>
          (if marked then readValue? fuel false ends r else some (.null, r)).bind fun (value, r) =>
            ((g.add? key).bind (·.add? value)).bind fun g => readPairs? fuel false g r

end

/-- The tokens after the directives at the beginning of a document, with the handle of the last one.
There is at most one of the version. -/
def takeDirectives? (versioned : Bool) (handle : Option Handle) :
    List Token → Option (Option Handle × List Token)
  | .version :: rest => if versioned then none else takeDirectives? true none rest
  | .handle h :: rest => takeDirectives? versioned (some h) rest
  | rest => some (handle, rest)

/-- Whether a token is a directive. -/
def isDirective : Token → Bool
  | .version | .handle _ => true
  | _ => false

/-- The next document before its tokens are read, with its handle. It needs a mark at its start if
directives precede it, and where `needed`. -/
def documentStart? (needed : Bool) (tokens : List Token) : Option Reader :=
  (takeDirectives? false none tokens).bind fun (handle, rest) =>
    match rest with
    | .documentStart :: rest => some { tokens := rest, handle := handle }
    | _ => if needed || tokens.head?.any isDirective then none else some { tokens := rest }

/-- The documents at the beginning of tokens, after some others. Only the first one, and one that
follows the end mark of another, may lack the mark at its start. -/
def readDocuments? : Nat → Bool → List Node → List Token → Option (List Node)
  | 0, _, _, _ => none
  | fuel + 1, needed, found, tokens =>
    let tokens := tokens.dropWhile (· == Token.documentEnd)
    if tokens.isEmpty then some found
    else
      (documentStart? needed tokens).bind fun content =>
        let isEmpty := content.tokens.head?.all fun token =>
          isDirective token || token == .documentStart || token == .documentEnd
        let document : Option (Node × Reader) :=
          if isEmpty then some (Node.null, content)
          else readNode? (4 * content.tokens.length + 4) true false content
        document.bind fun (node, after) =>
          if after.tokens.head?.any isDirective then none
          else readDocuments? fuel (!after.sees [.documentEnd]) (found ++ [node]) after.tokens

/-- The values of a text. -/
def documents? (text : String) : Option (List Node) :=
  (tokens? text).bind fun tokens => readDocuments? (tokens.length + 2) false [] tokens

end TupleClient.Yaml
