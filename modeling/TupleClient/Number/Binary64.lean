import TupleClient.Number.Power

/-!
# Double-precision numbers

Every finite double is a whole number of quanta of `2 ^ -1074`, the least positive double. A double
is held as its sign and that number, and rounding is rounding of a quotient of natural numbers to
a multiple of a power of two with at most 53 significant bits.

## Main definitions

* `Binary64` — a sign and a number of quanta
* `Binary64.roundQuanta` — a quotient rounded to the nearest double, ties to even
* `Binary64.SameValue` — equality of values: the two zeros are equal
* `Binary64.ofDecimal` — the double nearest to a decimal number

## Main results

* `Binary64.sameValue_refl` — identical doubles have the same value
-/

namespace TupleClient

/-- A finite double: a sign and a magnitude counted in quanta of `2 ^ -1074`. -/
structure Binary64 where
  negative : Bool
  quanta : Nat
deriving DecidableEq, Inhabited

namespace Binary64

/-- The number of quanta in one. -/
def one : Nat := twoTo 1074

/-- The least number of quanta that is too large for a finite double. -/
def overflow : Nat := twoTo 2098

/-- The whole number nearest to a quotient, the even one of two equally near. -/
def roundDiv (num den : Nat) : Nat :=
  let floor := num / den
  let twice := 2 * (num % den)
  if twice < den then floor
  else if den < twice then floor + 1
  else if floor % 2 = 0 then floor else floor + 1

/-- The number of low bits that a magnitude of so many quanta cannot use. -/
def unusedBits (quanta : Nat) : Nat :=
  Nat.log2 quanta + 1 - 53

/-- The quotient of `num` and `den` quanta, rounded to 53 significant bits. -/
def roundQuanta (num den : Nat) : Nat :=
  let shift := unusedBits (num / den)
  roundDiv num (den * twoTo shift) * twoTo shift

/-- The magnitude nearest to a whole number. -/
def ofNat (n : Nat) : Nat := roundQuanta (n * one) 1

/-- The magnitude nearest to a power of ten. -/
def powerOfTen (k : Nat) : Nat := ofNat (tenTo k)

/-- The rounded product of two magnitudes. -/
def mul (a b : Nat) : Nat := roundQuanta (a * b) one

/-- The rounded quotient of two magnitudes. -/
def div (a b : Nat) : Nat := roundQuanta (a * one) b

/-- Zero with the given sign. -/
def zero (negative : Bool) : Binary64 := ⟨negative, 0⟩

/-- Two doubles have the same value if they are identical or both zero. -/
def SameValue (x y : Binary64) : Prop :=
  x.quanta = y.quanta ∧ (x.negative = y.negative ∨ x.quanta = 0)

instance (x y : Binary64) : Decidable (SameValue x y) :=
  inferInstanceAs (Decidable (_ ∧ _))

theorem sameValue_refl (x : Binary64) : SameValue x x := ⟨rfl, Or.inl rfl⟩

end Binary64

/-- The outcome of reading a number that need not be finite. -/
inductive Real64 where
  | finite (x : Binary64)
  | infinite (negative : Bool)
  | undefined
deriving DecidableEq, Inhabited

namespace Binary64

/-- The magnitude of `digits * 10 ^ exponent`, rounded to nearest. Exponents beyond the reach of
any digits that matter are cut off, so that no power is larger than the digits call for. -/
def decimalQuanta (digits : Nat) (exponent : Int) : Nat :=
  if digits = 0 then 0
  else
    let size := (Nat.toDigits 10 digits).length
    if exponent + size > 400 then overflow
    else if exponent + size < -400 then 0
    else if 0 ≤ exponent then roundQuanta (digits * tenTo exponent.toNat * one) 1
    else roundQuanta (digits * one) (tenTo (-exponent).toNat)

/-- The double nearest to `digits * 10 ^ exponent`, infinite if it is out of range. -/
def ofDecimal (negative : Bool) (digits : Nat) (exponent : Int) : Real64 :=
  let quanta := decimalQuanta digits exponent
  if overflow ≤ quanta then .infinite negative else .finite ⟨negative, quanta⟩

/-- The whole number nearest to a magnitude, a half going away from zero. -/
def nearestNat (x : Binary64) : Nat :=
  (2 * x.quanta + one) / (2 * one)

end Binary64

end TupleClient
