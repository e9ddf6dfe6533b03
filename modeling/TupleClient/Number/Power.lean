/-!
# Powers of two and ten

## Main definitions

* `twoTo` — how many values so many bits have
* `tenTo` — how many values so many decimal digits have
* `fitsInt64` — a number has 64 bits with a sign
-/

namespace TupleClient

/-- A power of two: how many values `n` bits have. -/
def twoTo (n : Nat) : Nat := Nat.pow 2 n

/-- A power of ten: how many values `n` decimal digits have. -/
def tenTo (n : Nat) : Nat := Nat.pow 10 n

/-- Whether a number has 64 bits with a sign. -/
def fitsInt64 (n : Int) : Bool := -(twoTo 63 : Int) ≤ n && n < (twoTo 63 : Int)

end TupleClient
