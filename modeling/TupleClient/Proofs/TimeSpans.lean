import Mathlib.Tactic.Ring

/-!
# Spans of time in words

A span of time is kept as whole seconds in a word of 64 bits and the nanoseconds of one more second
in a word of 32 bits. Sums and products are computed in these words, with carries from the
nanoseconds to the seconds, and where the seconds have no room the result is the longest span. So an
operation never wraps: its result is the exact one, or the longest span if that is shorter.

## Main definitions

* `TimeSpan` — a span of time, and `TimeSpan.longest`, the longest one
* `TimeSpan.nanoseconds` — the whole span as one number
* `TimeSpan.ofMillis`, `TimeSpan.wholeMillis` — from and to milliseconds
* `TimeSpan.checkedAdd`, `TimeSpan.checkedMul` — sums and products, unless the seconds have no room
* `TimeSpan.saturatingAdd`, `TimeSpan.saturatingMul` — the same, with the longest span otherwise

## Main results

* `TimeSpan.nanoseconds_saturatingAdd`, `TimeSpan.nanoseconds_saturatingMul` — nothing wraps
* `TimeSpan.nanoseconds_shorter` — comparing the words compares the spans
-/

namespace TupleClient

namespace Word

/-- The sum of two words, unless it has no room in a word. -/
def checkedAdd (a b : UInt64) : Option UInt64 :=
  if a.toNat + b.toNat < UInt64.size then some (a + b) else none

/-- The product of two words, unless it has no room in a word. -/
def checkedMul (a b : UInt64) : Option UInt64 :=
  if a.toNat * b.toNat < UInt64.size then some (a * b) else none

/-- A power, or the greatest word if the power has no room in a word. -/
def saturatingPow (base exponent : UInt32) : UInt32 :=
  .ofNat (min (base.toNat ^ exponent.toNat) (UInt32.size - 1))

variable {a b c : UInt64}

theorem toNat_of_checkedAdd (h : checkedAdd a b = some c) : c.toNat = a.toNat + b.toNat := by
  unfold checkedAdd at h
  split at h
  · next room =>
    obtain rfl := Option.some.inj h
    rw [UInt64.toNat_add, Nat.mod_eq_of_lt room]
  · simp at h

theorem toNat_of_checkedMul (h : checkedMul a b = some c) : c.toNat = a.toNat * b.toNat := by
  unfold checkedMul at h
  split at h
  · next room =>
    obtain rfl := Option.some.inj h
    rw [UInt64.toNat_mul, Nat.mod_eq_of_lt room]
  · simp at h

theorem le_of_checkedAdd (h : checkedAdd a b = none) : 2 ^ 64 ≤ a.toNat + b.toNat := by
  simpa [checkedAdd, UInt64.size] using h

theorem le_of_checkedMul (h : checkedMul a b = none) : 2 ^ 64 ≤ a.toNat * b.toNat := by
  simpa [checkedMul, UInt64.size] using h

theorem toNat_saturatingPow (base exponent : UInt32) :
    (saturatingPow base exponent).toNat = min (base.toNat ^ exponent.toNat) (UInt32.size - 1) :=
  UInt32.toNat_ofNat_of_lt' (Nat.lt_of_le_of_lt (Nat.min_le_right _ _) (by decide))

end Word

/-- A span of time: whole seconds, and the nanoseconds of one more second. -/
structure TimeSpan where
  seconds : UInt64
  nanos : UInt32
  nanos_lt : nanos.toNat < 1000000000

namespace TimeSpan

/-- The nanoseconds of a span. -/
def nanoseconds (s : TimeSpan) : ℕ := s.seconds.toNat * 1000000000 + s.nanos.toNat

/-- The longest span. -/
def longest : TimeSpan := ⟨18446744073709551615, 999999999, by decide⟩

theorem nanoseconds_longest :
    longest.nanoseconds = 18446744073709551615 * 1000000000 + 999999999 := rfl

theorem nanoseconds_le_longest (s : TimeSpan) : s.nanoseconds ≤ longest.nanoseconds := by
  have seconds := s.seconds.toNat_lt
  have nanos := s.nanos_lt
  rw [nanoseconds_longest, nanoseconds]
  omega

/-! ## Milliseconds -/

theorem toNat_nanos_ofMillis (ms : UInt64) :
    ((ms % 1000).toUInt32 * 1000000).toNat = ms.toNat % 1000 * 1000000 := by
  have short : (ms % 1000).toNat = ms.toNat % 1000 := UInt64.toNat_mod ms 1000
  have word : ms.toNat % 1000 % 2 ^ 32 = ms.toNat % 1000 := Nat.mod_eq_of_lt (by omega)
  rw [UInt32.toNat_mul, UInt64.toNat_toUInt32, short, word]
  exact Nat.mod_eq_of_lt (show ms.toNat % 1000 * 1000000 < 2 ^ 32 by omega)

/-- The span of so many milliseconds. -/
def ofMillis (ms : UInt64) : TimeSpan where
  seconds := ms / 1000
  nanos := (ms % 1000).toUInt32 * 1000000
  nanos_lt := by
    rw [toNat_nanos_ofMillis]
    omega

theorem nanoseconds_ofMillis (ms : UInt64) : (ofMillis ms).nanoseconds = ms.toNat * 1000000 := by
  have seconds : (ms / 1000).toNat = ms.toNat / 1000 := UInt64.toNat_div ms 1000
  simp only [nanoseconds, ofMillis, seconds, toNat_nanos_ofMillis]
  omega

/-- The whole milliseconds of a span, or the greatest word if there are more. -/
def wholeMillis (s : TimeSpan) : UInt64 :=
  .ofNat (min (s.nanoseconds / 1000000) (UInt64.size - 1))

theorem wholeMillis_ofMillis (ms : UInt64) : (ofMillis ms).wholeMillis = ms := by
  have bound := ms.toNat_lt_size
  rw [wholeMillis, nanoseconds_ofMillis, Nat.mul_div_cancel _ (by decide),
    Nat.min_eq_left (by omega), UInt64.ofNat_toNat]

/-! ## Sums and products -/

theorem toNat_add_nanos (a b : TimeSpan) :
    (a.nanos + b.nanos).toNat = a.nanos.toNat + b.nanos.toNat := by
  have left := a.nanos_lt
  have right := b.nanos_lt
  rw [UInt32.toNat_add]
  exact Nat.mod_eq_of_lt (by omega)

theorem toNat_carried_nanos {a b : TimeSpan} (long : ¬ (a.nanos + b.nanos).toNat < 1000000000) :
    (a.nanos + b.nanos - 1000000000).toNat = a.nanos.toNat + b.nanos.toNat - 1000000000 := by
  rw [UInt32.toNat_sub_of_le _ _ (UInt32.le_iff_toNat_le.mpr (Nat.not_lt.mp long)),
    toNat_add_nanos]
  rfl

/-- The sum of two spans, unless its seconds have no room. -/
def checkedAdd (a b : TimeSpan) : Option TimeSpan :=
  (Word.checkedAdd a.seconds b.seconds).bind fun seconds =>
    if short : (a.nanos + b.nanos).toNat < 1000000000 then
      some ⟨seconds, a.nanos + b.nanos, short⟩
    else
      (Word.checkedAdd seconds 1).map fun seconds =>
        ⟨seconds, a.nanos + b.nanos - 1000000000, by
          have left := a.nanos_lt
          have right := b.nanos_lt
          rw [toNat_carried_nanos short]
          omega⟩

theorem toNat_mul_nanos (s : TimeSpan) (factor : UInt32) :
    (s.nanos.toUInt64 * factor.toUInt64).toNat = s.nanos.toNat * factor.toNat := by
  have product : s.nanos.toNat * factor.toNat < 2 ^ 32 * 2 ^ 32 :=
    Nat.mul_lt_mul'' s.nanos.toNat_lt factor.toNat_lt
  rw [UInt64.toNat_mul, UInt32.toNat_toUInt64, UInt32.toNat_toUInt64]
  exact Nat.mod_eq_of_lt product

theorem toNat_mod_second (nanos : UInt64) :
    (nanos % 1000000000).toUInt32.toNat = nanos.toNat % 1000000000 := by
  have short : (nanos % 1000000000).toNat = nanos.toNat % 1000000000 :=
    UInt64.toNat_mod nanos 1000000000
  rw [UInt64.toNat_toUInt32, short]
  exact Nat.mod_eq_of_lt (by omega)

theorem toNat_div_second (nanos : UInt64) :
    (nanos / 1000000000).toNat = nanos.toNat / 1000000000 :=
  UInt64.toNat_div nanos 1000000000

/-- The product of a span and a number, unless its seconds have no room. -/
def checkedMul (s : TimeSpan) (factor : UInt32) : Option TimeSpan :=
  let nanos := s.nanos.toUInt64 * factor.toUInt64
  (Word.checkedMul s.seconds factor.toUInt64).bind fun seconds =>
    (Word.checkedAdd seconds (nanos / 1000000000)).map fun seconds =>
      ⟨seconds, (nanos % 1000000000).toUInt32, by
        rw [toNat_mod_second]
        exact Nat.mod_lt _ (by decide)⟩

/-- The sum of two spans, or the longest span. -/
def saturatingAdd (a b : TimeSpan) : TimeSpan := (a.checkedAdd b).getD longest

/-- The product of a span and a number, or the longest span. -/
def saturatingMul (s : TimeSpan) (factor : UInt32) : TimeSpan := (s.checkedMul factor).getD longest

/-- If a result is exact where there is one, and too long for a span where there is none, then with
the longest span as a replacement it is the exact one as far as spans go. -/
theorem nanoseconds_getD {result : Option TimeSpan} {exact : ℕ}
    (present : ∀ s, result = some s → s.nanoseconds = exact)
    (absent : result = none → longest.nanoseconds < exact) :
    (result.getD longest).nanoseconds = min exact longest.nanoseconds := by
  cases result with
  | none => exact (Nat.min_eq_right (absent rfl).le).symm
  | some s =>
    rw [Option.getD_some, ← present s rfl]
    exact (Nat.min_eq_left s.nanoseconds_le_longest).symm

theorem nanoseconds_of_checkedAdd {a b sum : TimeSpan} (h : a.checkedAdd b = some sum) :
    sum.nanoseconds = a.nanoseconds + b.nanoseconds := by
  have nanos := toNat_add_nanos a b
  obtain ⟨seconds, added, h⟩ := Option.bind_eq_some_iff.mp h
  have added := Word.toNat_of_checkedAdd added
  split at h
  · obtain rfl := Option.some.inj h
    simp only [nanoseconds]
    omega
  · next long =>
    obtain ⟨next, carried, rfl⟩ := Option.map_eq_some_iff.mp h
    have carried : next.toNat = seconds.toNat + 1 := Word.toNat_of_checkedAdd carried
    simp only [nanoseconds, toNat_carried_nanos long]
    omega

theorem longest_lt_of_checkedAdd {a b : TimeSpan} (h : a.checkedAdd b = none) :
    longest.nanoseconds < a.nanoseconds + b.nanoseconds := by
  have nanos := toNat_add_nanos a b
  rw [nanoseconds_longest, nanoseconds, nanoseconds]
  cases added : Word.checkedAdd a.seconds b.seconds with
  | none =>
    have noRoom := Word.le_of_checkedAdd added
    omega
  | some seconds =>
    have h := Option.bind_eq_none_iff.mp h seconds added
    have added := Word.toNat_of_checkedAdd added
    split at h
    · simp at h
    · -- The seconds have room, but not for the carry.
      have noRoom : 2 ^ 64 ≤ seconds.toNat + 1 :=
        Word.le_of_checkedAdd (Option.map_eq_none_iff.mp h)
      omega

/-- A sum of spans is the exact one, or the longest span if that is shorter. -/
theorem nanoseconds_saturatingAdd (a b : TimeSpan) :
    (a.saturatingAdd b).nanoseconds =
      min (a.nanoseconds + b.nanoseconds) longest.nanoseconds :=
  nanoseconds_getD (fun _ => nanoseconds_of_checkedAdd) longest_lt_of_checkedAdd

theorem nanoseconds_mul (s : TimeSpan) (factor : ℕ) :
    s.nanoseconds * factor =
      s.seconds.toNat * factor * 1000000000 + s.nanos.toNat * factor := by
  rw [nanoseconds]
  ring

theorem nanoseconds_of_checkedMul {s product : TimeSpan} {factor : UInt32}
    (h : s.checkedMul factor = some product) :
    product.nanoseconds = s.nanoseconds * factor.toNat := by
  obtain ⟨whole, multiplied, h⟩ := Option.bind_eq_some_iff.mp h
  obtain ⟨seconds, carried, rfl⟩ := Option.map_eq_some_iff.mp h
  have multiplied := Word.toNat_of_checkedMul multiplied
  have carried := Word.toNat_of_checkedAdd carried
  rw [UInt32.toNat_toUInt64] at multiplied
  rw [toNat_div_second, toNat_mul_nanos] at carried
  rw [nanoseconds_mul, nanoseconds, toNat_mod_second, toNat_mul_nanos, carried, multiplied]
  omega

theorem longest_lt_of_checkedMul {s : TimeSpan} {factor : UInt32}
    (h : s.checkedMul factor = none) : longest.nanoseconds < s.nanoseconds * factor.toNat := by
  rw [nanoseconds_longest, nanoseconds_mul]
  cases multiplied : Word.checkedMul s.seconds factor.toUInt64 with
  | none =>
    have noRoom := Word.le_of_checkedMul multiplied
    rw [UInt32.toNat_toUInt64] at noRoom
    omega
  | some seconds =>
    have h := Option.bind_eq_none_iff.mp h seconds multiplied
    have multiplied := Word.toNat_of_checkedMul multiplied
    have noRoom := Word.le_of_checkedAdd (Option.map_eq_none_iff.mp h)
    rw [UInt32.toNat_toUInt64] at multiplied
    rw [toNat_div_second, toNat_mul_nanos] at noRoom
    omega

/-- A product is the exact one, or the longest span if that is shorter. -/
theorem nanoseconds_saturatingMul (s : TimeSpan) (factor : UInt32) :
    (s.saturatingMul factor).nanoseconds =
      min (s.nanoseconds * factor.toNat) longest.nanoseconds :=
  nanoseconds_getD (fun _ => nanoseconds_of_checkedMul) longest_lt_of_checkedMul

/-! ## Comparing -/

/-- A span is not longer than another one: it has fewer seconds, or as many and not more
nanoseconds. -/
def NotLonger (a b : TimeSpan) : Prop :=
  a.seconds < b.seconds ∨ (a.seconds = b.seconds ∧ a.nanos ≤ b.nanos)

instance (a b : TimeSpan) : Decidable (a.NotLonger b) := inferInstanceAs (Decidable (_ ∨ _))

/-- The shorter one of two spans. -/
def shorter (a b : TimeSpan) : TimeSpan := if a.NotLonger b then a else b

theorem notLonger_iff {a b : TimeSpan} : a.NotLonger b ↔ a.nanoseconds ≤ b.nanoseconds := by
  have left := a.nanos_lt
  have right := b.nanos_lt
  rw [NotLonger, UInt64.lt_iff_toNat_lt, ← UInt64.toNat_inj, UInt32.le_iff_toNat_le, nanoseconds,
    nanoseconds]
  omega

theorem nanoseconds_shorter (a b : TimeSpan) :
    (a.shorter b).nanoseconds = min a.nanoseconds b.nanoseconds := by
  unfold shorter
  split
  · next within => exact (Nat.min_eq_left (notLonger_iff.mp within)).symm
  · next beyond => exact (Nat.min_eq_right (Nat.le_of_not_le (mt notLonger_iff.mpr beyond))).symm

end TimeSpan

end TupleClient
