import TupleClient.Json.Basic

/-!
# Number text

A number is an optional minus, a whole part without needless zeros, and optionally a fraction and
an exponent. Without either it is a whole number as long as 64 bits hold it, a negative one in
signed form; all other numbers, and a negative zero, are doubles.

The digits of a double are gathered into 64 bits as long as they fit. What does not fit is dropped:
a dropped digit of the whole part counts for the exponent. The gathered digits are then scaled by
one power of ten, and by more of them only where the exponent is below that of every double.

## Main definitions

* `Json.Numeral` — the parts of a number's text
* `Json.Numeral.scan?` — a text taken apart
* `Json.Numeral.value?` — the number, unless it is out of range
-/

namespace TupleClient.Json

/-- The parts of a number's text. -/
structure Numeral where
  negative : Bool
  whole : List Char
  fraction : List Char
  /-- Whether the exponent is negative, and its digits. -/
  exponent : Option (Bool × List Char)

/-- The value of one decimal digit. -/
def digitValue (c : Char) : Nat := c.toNat - '0'.toNat

/-- The value of decimal digits. -/
def digitsValue (cs : List Char) : Nat :=
  cs.foldl (fun n c => 10 * n + digitValue c) 0

namespace Numeral

/-- The optional exponent at the end of a number's text. -/
def scanExponent? : List Char → Option (Option (Bool × List Char))
  | [] => some none
  | mark :: rest =>
    let (negative, digits) := match rest with
      | '-' :: ds => (true, ds)
      | '+' :: ds => (false, ds)
      | ds => (false, ds)
    if (mark = 'e' || mark = 'E') && !digits.isEmpty && digits.all Char.isDigit then
      some (some (negative, digits))
    else none

/-- The optional fraction and exponent at the end of a number's text. -/
def scanFraction? : List Char → Option (List Char × Option (Bool × List Char))
  | '.' :: rest =>
    let digits := rest.takeWhile Char.isDigit
    if digits.isEmpty then none
    else (scanExponent? (rest.dropWhile Char.isDigit)).map fun e => (digits, e)
  | rest => (scanExponent? rest).map fun e => ([], e)

/-- A number's text taken apart. -/
def scan? (cs : List Char) : Option Numeral :=
  let (negative, body) := match cs with
    | '-' :: rest => (true, rest)
    | _ => (false, cs)
  let whole := body.takeWhile Char.isDigit
  if whole.isEmpty || (1 < whole.length && whole.head? = some '0') then none
  else (scanFraction? (body.dropWhile Char.isDigit)).map fun (fraction, exponent) =>
    ⟨negative, whole, fraction, exponent⟩

/-- Digits gathered into 64 bits, the power of ten that they count for, and whether a digit has
been dropped. -/
structure Gathered where
  digits : Nat
  exponent : Int
  full : Bool

/-- One more digit of the whole part. -/
def Gathered.whole (g : Gathered) (c : Char) : Gathered :=
  let next := 10 * g.digits + digitValue c
  if g.full || twoTo 64 ≤ next then ⟨g.digits, g.exponent + 1, true⟩
  else ⟨next, g.exponent, false⟩

/-- One more digit of the fraction. -/
def Gathered.fraction (g : Gathered) (c : Char) : Gathered :=
  let next := 10 * g.digits + digitValue c
  if g.full || twoTo 64 ≤ next then ⟨g.digits, g.exponent, true⟩
  else ⟨next, g.exponent - 1, false⟩

/-- The digits of a number gathered. The fraction starts anew even if the whole part is full. -/
def gather (n : Numeral) : Gathered :=
  let whole := n.whole.foldl Gathered.whole ⟨0, 0, false⟩
  n.fraction.foldl Gathered.fraction ⟨whole.digits, whole.exponent, false⟩

/-- A magnitude divided by `10 ^ n`, in steps of `10 ^ 308` as long as something is left. -/
def scaleDown (quanta n : Nat) : Nat :=
  if n ≤ 308 then Binary64.div quanta (Binary64.powerOfTen n)
  else if quanta = 0 then 0
  else scaleDown (Binary64.div quanta (Binary64.powerOfTen 308)) (n - 308)
termination_by n

/-- A magnitude times a power of ten, unless it is out of range. -/
def scale? (quanta : Nat) (exponent : Int) : Option Nat :=
  if quanta = 0 then some 0
  else if exponent < 0 then some (scaleDown quanta (-exponent).toNat)
  else if 308 < exponent then none
  else
    let scaled := Binary64.mul quanta (Binary64.powerOfTen exponent.toNat)
    if Binary64.overflow ≤ scaled then none else some scaled

/-- The number as a double, unless it is out of range. -/
def float? (n : Numeral) : Option Json :=
  let g := n.gather
  let exponent : Int := match n.exponent with
    | none => 0
    | some (true, digits) => -(digitsValue digits)
    | some (false, digits) => digitsValue digits
  (scale? (Binary64.ofNat g.digits) (g.exponent + exponent)).map fun quanta =>
    .float ⟨n.negative, quanta⟩

/-- The number, unless it is out of range. -/
def value? (n : Numeral) : Option Json :=
  if n.fraction.isEmpty && n.exponent.isNone then
    let value := digitsValue n.whole
    if n.negative then
      if 0 < value && value ≤ twoTo 63 then some (.int (-value)) else n.float?
    else if value < twoTo 64 then some (.int value) else n.float?
  else n.float?

end Numeral

/-- The number that a text stands for. -/
def number? (cs : List Char) : Option Json :=
  (Numeral.scan? cs).bind Numeral.value?

end TupleClient.Json
