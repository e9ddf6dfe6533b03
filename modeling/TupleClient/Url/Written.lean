/-!
# The written form of letters

Letters beyond ASCII are written with ASCII letters, digits and hyphens. What comes before the last
hyphen stands for itself; what follows it are numbers that say which other letters are put among
those and where. How many digits a number has depends on the sizes of the numbers before it.

## Main definitions

* `Url.writtenLetters?` — the letters that a written form stands for
-/

namespace TupleClient.Url

/-- The value of a digit. Letters come before digits. -/
def writtenDigit? (c : Char) : Option Nat :=
  if 'a' ≤ c && c ≤ 'z' then some (c.toNat - 'a'.toNat)
  else if 'A' ≤ c && c ≤ 'Z' then some (c.toNat - 'A'.toNat)
  else if '0' ≤ c && c ≤ '9' then some (c.toNat - '0'.toNat + 26)
  else none

/-- How often a difference can be divided by 35 before it is small, times 36, and what is left. -/
def shrink (delta k : Nat) : Nat × Nat :=
  if 455 < delta then shrink (delta / 35) (k + 36) else (delta, k)
termination_by delta
decreasing_by exact Nat.div_lt_self (by omega) (by omega)

/-- The bias for the next difference, after one among so many characters. -/
def adaptBias (delta count : Nat) (first : Bool) : Nat :=
  let delta := if first then delta / 700 else delta / 2
  let (delta, k) := shrink (delta + delta / count) 0
  k + 36 * delta / (delta + 38)

/-- The difference at the beginning of digits, and the digits after it. -/
def readDifference? (bias : Nat) (k weight sum : Nat) : List Char → Option (Nat × List Char)
  | [] => none
  | c :: rest =>
    (writtenDigit? c).bind fun d =>
      let threshold := if k ≤ bias then 1 else if bias + 26 ≤ k then 26 else k - bias
      if d < threshold then some (sum + d * weight, rest)
      else readDifference? bias (k + 36) (weight * (36 - threshold)) (sum + d * weight) rest

/-- The letters that digits stand for, put among the letters already there. At most `steps`
differences are read. -/
def readLetters? (letters : List Char) (code position bias : Nat) (first : Bool) :
    Nat → List Char → Option (List Char)
  | _, [] => some letters
  | 0, _ => none
  | steps + 1, digits =>
    (readDifference? bias 36 1 0 digits).bind fun (difference, rest) =>
      let count := letters.length + 1
      let total := position + difference
      let code := code + total / count
      let position := total % count
      let c := Char.ofNat code
      if c.toNat = code then
        readLetters? (letters.take position ++ c :: letters.drop position) code (position + 1)
          (adaptBias difference count first) false steps rest
      else none

/-- The letters that a written form stands for. A hyphen is not its first character. -/
def writtenLetters? (cs : List Char) : Option (List Char) :=
  let digits := (cs.reverse.takeWhile (· ≠ '-')).reverse
  let plain := cs.take (cs.length - digits.length - 1)
  if plain.isEmpty && digits.length < cs.length then none
  else readLetters? plain 0x80 0 72 true digits.length digits

end TupleClient.Url
