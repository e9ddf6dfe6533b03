import TupleClient.Number.Binary64

/-!
# The shortest decimal text of a double

A double is written with the fewest digits that read back as the same double, and among those with
the digits nearest to it. The decimals with a given last place form a grid; the coarsest grid with
a point in the interval of reals that round to the double gives the fewest digits, and of its two
points around the double the nearer one is taken. Where both are equally near, the layout decides.

## Main definitions

* `Decimal` — whole digits times a power of ten
* `Binary64.shortest` — the shortest decimal that reads back
* `Decimal.Layout` — how a decimal is laid out: where positional notation ends, how an exponent is
  written, whether a whole number keeps a fraction, and where ties go
* `Binary64.render` — the text of a double in a layout
-/

namespace TupleClient

/-- The decimal number `digits * 10 ^ exponent`. -/
structure Decimal where
  digits : Nat
  exponent : Int
deriving DecidableEq, Inhabited

namespace Binary64

/-- The interval of reals that round to a magnitude, in quarters of a quantum, with the magnitude
itself between its ends; the ends belong to it if `closed`. -/
structure Rounding where
  low : Nat
  middle : Nat
  high : Nat
  closed : Bool

/-- The reals that round to so many quanta. Below a power of two the next double is half as far
away as above it. -/
def rounding (quanta : Nat) : Rounding :=
  let shift := unusedBits quanta
  let significand := quanta / twoTo shift
  let below := if significand = twoTo 52 && 0 < shift then twoTo shift else 2 * twoTo shift
  ⟨4 * quanta - below, 4 * quanta, 4 * quanta + 2 * twoTo shift, significand % 2 = 0⟩

/-- The point of the grid `10 ^ k` that is in the interval and nearest to its middle. Of two points
equally near it is the greater one where `up`, and the even one otherwise. -/
def gridPoint? (up : Bool) (r : Rounding) (k : Int) : Option Nat :=
  -- Interval and grid are scaled by the same number, so that both consist of whole numbers.
  let step := 4 * one * tenTo k.toNat
  let scale := tenTo (-k).toNat
  let inside (c : Nat) : Bool :=
    if r.closed then r.low * scale ≤ c * step && c * step ≤ r.high * scale
    else r.low * scale < c * step && c * step < r.high * scale
  let under := r.middle * scale / step
  let next := under + 1
  match inside under, inside next with
  | true, true =>
    let gapUnder := r.middle * scale - under * step
    let gapNext := next * step - r.middle * scale
    if gapUnder < gapNext || (gapUnder = gapNext && !up && under % 2 = 0) then some under
    else some next
  | true, false => some under
  | false, true => some next
  | false, false => none

/-- The first hit on the grids `10 ^ k`, `10 ^ (k - 1)` and so on for the given number of grids. -/
def coarsest (up : Bool) (r : Rounding) (k : Int) : Nat → Decimal
  | 0 => ⟨0, k⟩
  | grids + 1 =>
    match gridPoint? up r k with
    | some c => ⟨c, k⟩
    | none => coarsest up r (k - 1) grids

/-- An exponent of ten whose power exceeds a magnitude of so many quanta. -/
def exponentAbove (quanta : Nat) : Int :=
  ((Nat.log2 quanta : Int) + 1 - 1074) * 30103 / 100000 + 1

/-- The shortest decimal that reads back as the magnitude, the nearest of that length; where `up`,
the greater one of two equally near. Twenty grids suffice, since seventeen significant digits
always read back. -/
def shortest (up : Bool) (quanta : Nat) : Decimal :=
  if quanta = 0 then ⟨0, 0⟩ else coarsest up (rounding quanta) (exponentAbove quanta) 20

end Binary64

namespace Decimal

/-- How a decimal is laid out. -/
structure Layout where
  /-- The least and greatest exponents of the leading digit that are written positionally, if the
  notation has an exponent at all. -/
  positional : Option (Int × Int)
  /-- Whether a positive exponent has a sign. -/
  plus : Bool
  /-- Whether a whole number in positional notation ends in a point and a zero. -/
  fraction : Bool
  /-- Whether the greater one is taken of two decimals equally near; otherwise the even one is. -/
  up : Bool

/-- The digits of a decimal without an exponent. -/
def positionalText (d : Decimal) (fraction : Bool) : String :=
  let digits := Nat.toDigits 10 d.digits
  if 0 ≤ d.exponent then
    String.ofList (digits ++ List.replicate d.exponent.toNat '0')
      ++ (if fraction then ".0" else "")
  else
    let places := (-d.exponent).toNat
    -- There is a digit before the point even if the number is less than one.
    let padded := List.replicate (places + 1 - digits.length) '0' ++ digits
    let whole := padded.take (padded.length - places)
    let rest := padded.drop (padded.length - places)
    String.ofList (whole ++ '.' :: rest)

/-- The digits of a decimal with one digit before the point, and the exponent. -/
def exponentText (d : Decimal) (leading : Int) (plus : Bool) : String :=
  let mantissa := match Nat.toDigits 10 d.digits with
    | [] => []
    | [c] => [c]
    | c :: rest => c :: '.' :: rest
  let sign := if leading < 0 then "-" else if plus then "+" else ""
  String.ofList mantissa ++ "e" ++ sign ++ toString leading.natAbs

/-- The text of a decimal in a layout. -/
def render (layout : Layout) (d : Decimal) : String :=
  let leading := d.exponent + (Nat.toDigits 10 d.digits).length - 1
  match layout.positional with
  | none => d.positionalText layout.fraction
  | some (least, greatest) =>
    if d.digits = 0 || (least ≤ leading && leading ≤ greatest) then
      d.positionalText layout.fraction
    else d.exponentText leading layout.plus

end Decimal

namespace Binary64

/-- The text of a double in a layout, with its sign, which zero has too. -/
def render (layout : Decimal.Layout) (x : Binary64) : String :=
  (if x.negative then "-" else "") ++ (shortest layout.up x.quanta).render layout

/-- The layout of numbers in data: an exponent below `10 ^ -5` and from `10 ^ 16`, with its sign,
and a fraction in every whole number. Ties go to the even neighbour. -/
def dataLayout : Decimal.Layout := ⟨some (-5, 15), true, true, false⟩

/-- The layout of numbers used as text: no exponent and no needless fraction. Ties go up. -/
def plainLayout : Decimal.Layout := ⟨none, false, false, true⟩

/-- The layout of numbers quoted in messages: no exponent, and a fraction in every whole number.
Ties go up. -/
def messageLayout : Decimal.Layout := ⟨none, false, true, true⟩

end Binary64

end TupleClient
