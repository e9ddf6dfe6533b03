import TupleClient.Proofs.TimeSpans
import TupleClient.Settings.Basic

/-!
# Pauses between attempts

The pause before a retry is the basis, doubled for each retry up to the sixteenth, and a random part
of at most the basis, and it is cut at the longest pause. Doubling makes up for the random part of
the pause before, so pauses do not get shorter as long as they are doubled, whatever the random
parts are; a random part as long as the basis and none at the next retry make them equal.

The waits are words of milliseconds. Multiplied by `2 ^ 16` they may exceed every span of time, but
no pause is longer than the longest wait, so this never shows.

## Main definitions

* `RetryPolicy.InWords` — the waits of a policy are words
* `RetryPolicy.spanOfPause` — the pause before a retry, computed in words

## Main results

* `RetryPolicy.delay_eq` — the pause in exact arithmetic
* `RetryPolicy.delay_mono` — pauses do not get shorter while they are doubled
* `RetryPolicy.nanoseconds_spanOfPause` — computing in words makes no difference
* `RetryPolicy.delay_bounded` — the bounds of the pauses
-/

namespace TupleClient

namespace RetryPolicy

variable {p : RetryPolicy} {attempt later jitter other : ℕ}

/-! ## Exact pauses -/

/-- A wait that a span of time can hold is the only thing at which a pause is cut. -/
theorem delay_eq (held : p.maxWait ≤ longestSpan) (attempt jitter : ℕ) :
    p.delay attempt jitter = min (p.minWait * 2 ^ min attempt 16 + jitter) p.maxWait := by
  have factor : twoTo (min attempt 16) = 2 ^ min attempt 16 := rfl
  simp only [delay, factor]
  omega

theorem delay_le (p : RetryPolicy) (attempt jitter : ℕ) : p.delay attempt jitter ≤ p.maxWait :=
  min_le_right _ _

theorem le_delay (held : p.maxWait ≤ longestSpan) (attempt jitter : ℕ) :
    min p.minWait p.maxWait ≤ p.delay attempt jitter := by
  have basis : p.minWait ≤ p.minWait * 2 ^ min attempt 16 :=
    Nat.le_mul_of_pos_right _ (Nat.two_pow_pos _)
  rw [delay_eq held]
  omega

theorem delay_eq_maxWait (held : p.maxWait ≤ longestSpan)
    (reached : p.maxWait ≤ p.minWait * 2 ^ min attempt 16) (jitter : ℕ) :
    p.delay attempt jitter = p.maxWait := by
  rw [delay_eq held]
  omega

/-- A pause is not longer than a later one, whatever their random parts are, if it is still doubled
from the earlier retry to the later one. -/
theorem delay_mono (held : p.maxWait ≤ longestSpan) (within : jitter ≤ p.minWait)
    (doubled : attempt < 16) (next : attempt < later) :
    p.delay attempt jitter ≤ p.delay later other := by
  have exponent : attempt + 1 ≤ min later 16 := by omega
  have basis : p.minWait ≤ p.minWait * 2 ^ attempt := Nat.le_mul_of_pos_right _ (Nat.two_pow_pos _)
  have sum : p.minWait * 2 ^ attempt + jitter ≤ p.minWait * 2 ^ min later 16 :=
    calc p.minWait * 2 ^ attempt + jitter
        ≤ p.minWait * 2 ^ attempt + p.minWait * 2 ^ attempt := by omega
      _ = p.minWait * 2 ^ (attempt + 1) := by rw [Nat.pow_succ, ← Nat.mul_assoc, Nat.mul_two]
      _ ≤ p.minWait * 2 ^ min later 16 :=
          Nat.mul_le_mul_left _ (Nat.pow_le_pow_right (by decide) exponent)
  rw [delay_eq held, delay_eq held, Nat.min_eq_left doubled.le]
  omega

/-! ## Pauses in words -/

/-- The waits of a policy are what two words stand for. -/
structure InWords (p : RetryPolicy) (minWait maxWait : UInt64) : Prop where
  minWait : p.minWait = minWait.toNat
  maxWait : p.maxWait = maxWait.toNat

/-- A wait is shorter than the longest span of time. -/
theorem InWords.held {minWait maxWait : UInt64} (words : p.InWords minWait maxWait) :
    p.maxWait ≤ longestSpan := by
  have bound := maxWait.toNat_lt
  have longest : longestSpan = 18446744073709551615 * 1000 + 999 := rfl
  rw [words.maxWait]
  omega

/-- The basis of a pause, doubled. -/
def spanOfBasis (minWait : UInt64) (attempt : UInt32) : TimeSpan :=
  (TimeSpan.ofMillis minWait).saturatingMul (Word.saturatingPow 2 (min attempt 16))

/-- The pause before a retry, computed in words. -/
def spanOfPause (minWait maxWait : UInt64) (attempt : UInt32) (jitter : UInt64) : TimeSpan :=
  ((spanOfBasis minWait attempt).saturatingAdd (.ofMillis jitter)).shorter (.ofMillis maxWait)

/-- The power by which the basis is multiplied has room in its word. -/
theorem toNat_factor (attempt : UInt32) :
    (Word.saturatingPow 2 (min attempt 16)).toNat = 2 ^ min attempt.toNat 16 := by
  have exponent : (min attempt 16).toNat = min attempt.toNat 16 := UInt32.toNat_min attempt 16
  have small : 2 ^ min attempt.toNat 16 ≤ 2 ^ 16 :=
    Nat.pow_le_pow_right (by decide) (min_le_right _ _)
  rw [Word.toNat_saturatingPow, exponent]
  exact Nat.min_eq_left (small.trans (by decide))

theorem nanoseconds_spanOfBasis (minWait : UInt64) (attempt : UInt32) :
    (spanOfBasis minWait attempt).nanoseconds =
      min (minWait.toNat * 2 ^ min attempt.toNat 16 * 1000000) TimeSpan.longest.nanoseconds := by
  rw [spanOfBasis, TimeSpan.nanoseconds_saturatingMul, TimeSpan.nanoseconds_ofMillis, toNat_factor,
    Nat.mul_right_comm]

/-- The sum of the basis and the random part. -/
theorem nanoseconds_sum (minWait : UInt64) (attempt : UInt32) (jitter : UInt64) :
    ((spanOfBasis minWait attempt).saturatingAdd (.ofMillis jitter)).nanoseconds =
      min ((minWait.toNat * 2 ^ min attempt.toNat 16 + jitter.toNat) * 1000000)
        TimeSpan.longest.nanoseconds := by
  rw [TimeSpan.nanoseconds_saturatingAdd, nanoseconds_spanOfBasis, TimeSpan.nanoseconds_ofMillis]
  omega

/-- The pause that is computed in words is the exact one. -/
theorem nanoseconds_spanOfPause {minWait maxWait : UInt64} (words : p.InWords minWait maxWait)
    (attempt : UInt32) (jitter : UInt64) :
    (spanOfPause minWait maxWait attempt jitter).nanoseconds =
      p.delay attempt.toNat jitter.toNat * 1000000 := by
  -- Where the sum is cut at the longest span, the pause is cut at the longest wait.
  have held := (TimeSpan.ofMillis maxWait).nanoseconds_le_longest
  rw [delay_eq words.held, words.minWait, words.maxWait, spanOfPause,
    TimeSpan.nanoseconds_shorter, nanoseconds_sum]
  simp only [TimeSpan.nanoseconds_ofMillis] at held ⊢
  omega

/-- A pause lies between the waits of its policy, if the shorter one of them is taken as the lower
bound, and valid settings have them in order. Computed in words, the doubled basis, its sum with the
random part and the pause are the exact ones as far as a span of time goes: nothing wraps, and the
random part is drawn from no more than the basis. The pause is the longest one as soon as the
doubled basis reaches it, and as long as the basis is doubled no later pause is shorter. -/
theorem delay_bounded {minWait maxWait : UInt64} (words : p.InWords minWait maxWait)
    (attempt : UInt32) {jitter : UInt64} (within : jitter ≤ minWait) :
    let pause := p.delay attempt.toNat jitter.toNat
    let basis := p.minWait * 2 ^ min attempt.toNat 16
    let longest := TimeSpan.longest.nanoseconds
    (min p.minWait p.maxWait ≤ pause ∧ pause ≤ p.maxWait) ∧
      (∀ s : Settings, s.Valid → s.retryPolicy = p → p.minWait ≤ pause) ∧
      (TimeSpan.ofMillis minWait).wholeMillis = minWait ∧
      (spanOfBasis minWait attempt).nanoseconds = min (basis * 1000000) longest ∧
      ((spanOfBasis minWait attempt).saturatingAdd (.ofMillis jitter)).nanoseconds =
        min ((basis + jitter.toNat) * 1000000) longest ∧
      (spanOfPause minWait maxWait attempt jitter).nanoseconds = pause * 1000000 ∧
      (p.maxWait ≤ basis → pause = p.maxWait) ∧
      ∀ (later : UInt32) (other : UInt64), attempt < later → attempt < 16 →
        pause ≤ p.delay later.toNat other.toNat := by
  intro pause basis longest
  have lower : min p.minWait p.maxWait ≤ pause := le_delay words.held _ _
  have drawn : jitter.toNat ≤ p.minWait := words.minWait ▸ UInt64.le_iff_toNat_le.mp within
  refine ⟨⟨lower, p.delay_le _ _⟩, ?_, TimeSpan.wholeMillis_ofMillis minWait, ?_, ?_,
    nanoseconds_spanOfPause words attempt jitter,
    fun reached => delay_eq_maxWait words.held reached _, ?_⟩
  · intro s valid same
    have ordered : p.minWait ≤ p.maxWait := same ▸ valid.waits
    exact (Nat.min_eq_left ordered).symm.le.trans lower
  · simp only [basis, words.minWait]
    exact nanoseconds_spanOfBasis minWait attempt
  · simp only [basis, words.minWait]
    exact nanoseconds_sum minWait attempt jitter
  · intro later other next doubled
    exact delay_mono words.held drawn (UInt32.lt_iff_toNat_lt.mp doubled)
      (UInt32.lt_iff_toNat_lt.mp next)

/-- The longest random part and none make two pauses equal. With the greatest wait the doubled basis
is longer than any span of time, and the pause is still the longest wait. -/
theorem delay_bounded_equal :
    let p : RetryPolicy := ⟨3, 100, 5000⟩
    let greatest : UInt64 := 18446744073709551615
    let q : RetryPolicy := ⟨3, greatest.toNat, greatest.toNat⟩
    p.InWords 100 5000 ∧ q.InWords greatest greatest ∧ p.delay 0 100 = p.delay 1 0 ∧
      p.delay 0 100 ≤ p.delay 1 0 ∧ q.delay 16 greatest.toNat = greatest.toNat ∧
      (spanOfBasis greatest 16).nanoseconds = TimeSpan.longest.nanoseconds := by
  intro p greatest q
  have words : p.InWords 100 5000 := ⟨rfl, rfl⟩
  have words' : q.InWords greatest greatest := ⟨rfl, rfl⟩
  obtain ⟨-, -, -, -, -, -, -, later⟩ :=
    delay_bounded words 0 (show (100 : UInt64) ≤ 100 by decide)
  obtain ⟨-, -, -, basis, -, -, reached, -⟩ :=
    delay_bounded words' 16 (show greatest ≤ greatest by decide)
  exact ⟨words, words', by decide, later 1 0 (by decide) (by decide), reached (by decide),
    basis.trans (Nat.min_eq_right (by decide))⟩

end RetryPolicy

end TupleClient
