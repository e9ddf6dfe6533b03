import TupleClient.Number.Binary64
import TupleClient.Text.Hex

/-!
# Scalars of YAML

A scalar without quotes stands for a null, a truth value, a number or a text, as its spelling says.
Whole numbers have 64 bits with a sign; what does not fit is a real number. A real number keeps its
spelling, because two keys are the same only if they are spelled alike.

## Main definitions

* `Yaml.Scalar` — the values
* `Yaml.Scalar.ofPlain` — the value of a scalar without quotes
* `Yaml.Scalar.ofTagged?` — the value of such a scalar whose type is named
* `Yaml.readReal?` — the number that a spelling stands for
-/

namespace TupleClient.Yaml

/-- A value without parts. -/
inductive Scalar where
  | null
  | bool (b : Bool)
  | int (n : Int)
  | real (spelling : String)
  | text (s : String)
deriving DecidableEq, Inhabited

/-- The value of digits in a base, of which there has to be one at least. -/
def digitsIn? (base : Nat) (cs : List Char) : Option Nat :=
  if cs.isEmpty then none
  else cs.foldlM (fun n c => (Text.hexValue? c).bind fun d =>
    if d < base then some (base * n + d) else none) 0

/-- A whole number in a base, perhaps with a sign. -/
def readInt? (base : Nat) (cs : List Char) : Option Int :=
  let value : Option Int := match cs with
    | '-' :: digits => (digitsIn? base digits).map fun n => -(n : Int)
    | '+' :: digits => (digitsIn? base digits).map fun n => (n : Int)
    | digits => (digitsIn? base digits).map fun n => (n : Int)
  value.filter fitsInt64

/-- The exponent at the end of a real number, zero if there is none. -/
def readExponent? : List Char → Option Int
  | [] => some 0
  | mark :: rest =>
    if mark = 'e' || mark = 'E' then
      match rest with
      | '-' :: digits => (digitsIn? 10 digits).map fun n => -(n : Int)
      | '+' :: digits => (digitsIn? 10 digits).map fun n => (n : Int)
      | digits => (digitsIn? 10 digits).map fun n => (n : Int)
    else none

/-- A decimal number without its sign: digits with a point before, among or after them, and perhaps
an exponent. -/
def readDecimal? (negative : Bool) (cs : List Char) : Option Real64 :=
  let whole := cs.takeWhile Char.isDigit
  let rest := cs.dropWhile Char.isDigit
  let (fraction, rest) := match rest with
    | '.' :: rest => (rest.takeWhile Char.isDigit, rest.dropWhile Char.isDigit)
    | _ => ([], rest)
  match digitsIn? 10 (whole ++ fraction), readExponent? rest with
  | some digits, some exponent =>
    some (Binary64.ofDecimal negative digits (exponent - fraction.length))
  | _, _ => none

/-- A real number without its sign: a decimal number, or a word for what is not a finite one, in
letters of either case. -/
def readMagnitude? (negative : Bool) (cs : List Char) : Option Real64 :=
  let word := String.ofList (cs.map Char.toLower)
  if word = "inf" || word = "infinity" then some (.infinite negative)
  else if word = "nan" then some .undefined
  else readDecimal? negative cs

/-- The number that a spelling stands for. -/
def readReal? (spelling : String) : Option Real64 :=
  match spelling.toList with
  | '-' :: rest => readMagnitude? true rest
  | '+' :: rest => readMagnitude? false rest
  | cs => readMagnitude? false cs

/-- The spellings with a point of the numbers that are not finite. They count as real numbers,
although none of them can be read as one. A spelling of the undefined number has capitals throughout
or none. -/
def boundlessSpellings : List String :=
  [".inf", ".Inf", ".INF", "+.inf", "+.Inf", "+.INF", "-.inf", "-.Inf", "-.INF", ".nan", ".NAN"]

/-- Whether a spelling is that of a real number. -/
def isReal (spelling : String) : Bool :=
  boundlessSpellings.contains spelling || (readReal? spelling).isSome

namespace Scalar

/-- A whole number written in base 16 or 8, or with a plus sign before it. -/
def marked? : List Char → Option Int
  | '0' :: 'x' :: digits => readInt? 16 digits
  | '0' :: 'o' :: digits => readInt? 8 digits
  | '+' :: digits => readInt? 10 digits
  | _ => none

/-- The value of a scalar without quotes. -/
def ofPlain (s : String) : Scalar :=
  match (marked? s.toList).or (readInt? 10 s.toList) with
  | some n => int n
  | none =>
    if s = "~" || s = "null" then null
    else if s = "true" then bool true
    else if s = "false" then bool false
    else if isReal s then real s
    else text s

/-- The value of a scalar without quotes whose type is named, unless its spelling is not one of the
type. One of a type that has no name here is a text. -/
def ofTagged? (type s : String) : Option Scalar :=
  match type with
  | "bool" =>
    if s = "true" then some (bool true) else if s = "false" then some (bool false) else none
  | "int" => (readInt? 10 s.toList).map int
  | "float" => if isReal s then some (real s) else none
  | "null" => if s = "~" || s = "null" then some null else none
  | _ => some (text s)

end Scalar

end TupleClient.Yaml
