import BatchChanges.Retry
import Mathlib.Tactic.Ring

/-! # How delays grow

The delay of a retry doubles with every failure in a row, up to the longest one of the policy. It is
computed in words: the shift is kept inside of the word, and the product may be cut off at the
largest word, but never where the longest delay does not cut it off as well. So the delay is that
of numbers without bound as long as it doubles no more than 32 times, or the longest delay is
reached by then.
-/

namespace BatchChanges.RetryPolicy

private theorem toNat_saturatingMul (left right : UInt64) :
    (saturatingMul left right).toNat = min (left.toNat * right.toNat) (UInt64.size - 1) := by
  simp only [saturatingMul]
  split
  · next fits =>
    rw [UInt64.toNat_mul, Nat.mod_eq_of_lt fits]
    omega
  · rw [UInt64.toNat_ofNat_of_lt' (by decide)]
    omega

private theorem toNat_doublings (failures : UInt32) :
    (doublings failures).toNat = min (failures.toNat - 1) 32 := by
  rw [doublings, UInt64.toNat_ofNat_of_lt']
  simp only [UInt64.size]
  omega

private theorem toNat_shiftLeft_doublings (failures : UInt32) :
    ((1 : UInt64) <<< doublings failures).toNat = 2 ^ min (failures.toNat - 1) 32 := by
  have few : (doublings failures).toNat ≤ 32 := by
    rw [toNat_doublings]
    exact Nat.min_le_right _ _
  have small : 2 ^ (doublings failures).toNat < 2 ^ 64 :=
    Nat.pow_lt_pow_right (by decide) (by omega)
  rw [UInt64.toNat_shiftLeft, UInt64.toNat_one,
    Nat.mod_eq_of_lt (show (doublings failures).toNat < 64 by omega), Nat.one_shiftLeft,
    Nat.mod_eq_of_lt small, toNat_doublings]

/-- In numbers without bound the delay is cut off by the policy only. -/
theorem toNat_backoffSeconds (policy : RetryPolicy) (failures : UInt32) :
    (policy.backoffSeconds failures).toNat =
      min (policy.minBackoff.toNat * 2 ^ min (failures.toNat - 1) 32) policy.maxBackoff.toNat := by
  have most := policy.maxBackoff.toNat_lt
  have smaller : ∀ left right : UInt64, (min left right).toNat = min left.toNat right.toNat := by
    intro left right
    change (if left ≤ right then left else right).toNat = _
    simp only [UInt64.le_iff_toNat_le]
    split <;> omega
  rw [backoffSeconds, smaller, toNat_saturatingMul, toNat_shiftLeft_doublings]
  simp only [UInt64.size]
  omega

/-- More failures never lead to a shorter delay. -/
theorem backoffSeconds_mono (policy : RetryPolicy) {failures later : UInt32}
    (more : failures ≤ later) : policy.backoffSeconds failures ≤ policy.backoffSeconds later := by
  rw [UInt64.le_iff_toNat_le, toNat_backoffSeconds, toNat_backoffSeconds]
  have doubled : 2 ^ min (failures.toNat - 1) 32 ≤ 2 ^ min (later.toNat - 1) 32 := by
    refine Nat.pow_le_pow_right (by decide) ?_
    have := UInt32.le_iff_toNat_le.mp more
    omega
  have := Nat.mul_le_mul_left policy.minBackoff.toNat doubled
  omega

/-- With more failures than doublings, the delay is the one that doubles on and on only if it stands
still anyway. -/
theorem toNat_backoffSeconds_eq_iff (policy : RetryPolicy) (failures : UInt32) :
    (policy.backoffSeconds failures).toNat =
        min (policy.minBackoff.toNat * 2 ^ (failures.toNat - 1)) policy.maxBackoff.toNat ↔
      failures ≤ 33 ∨ policy.maxBackoff.toNat ≤ policy.minBackoff.toNat * 2 ^ 32 ∨
        policy.minBackoff = 0 := by
  have few : failures ≤ 33 ↔ failures.toNat ≤ 33 := UInt32.le_iff_toNat_le
  have none : policy.minBackoff = 0 ↔ policy.minBackoff.toNat = 0 := by
    rw [← UInt64.toNat_inj]
    rfl
  rw [toNat_backoffSeconds, few, none]
  by_cases short : failures.toNat ≤ 33
  · have exact : min (failures.toNat - 1) 32 = failures.toNat - 1 := by omega
    rw [exact]
    simp [short]
  · have capped : min (failures.toNat - 1) 32 = 32 := by omega
    have doubled : 2 * 2 ^ 32 ≤ 2 ^ (failures.toNat - 1) := by
      rw [← Nat.pow_succ']
      apply Nat.pow_le_pow_right
      · decide
      · omega
    have grown := Nat.mul_le_mul_left policy.minBackoff.toNat doubled
    rw [capped]
    rcases Nat.eq_zero_or_pos policy.minBackoff.toNat with zero | positive
    · simp [zero]
    · omega

/-- For every policy and any two numbers of failures in a row, of which the second is not smaller:
the delay does not shrink and never exceeds the longest one of the policy. The shift stays inside of
the word and loses nothing, and the delay is the same with the product of numbers without bound. It
is the delay that doubles with every failure after the first one, up to the longest one, if and only
if there are no more than 33 failures, or the longest delay is reached after 32 doublings, or there
is no delay to double. -/
theorem backoff_doubles_iff (policy : RetryPolicy) {failures later : UInt32}
    (more : failures ≤ later) :
    ((policy.backoff failures).nanoseconds ≤ (policy.backoff later).nanoseconds ∧
      (policy.backoff later).nanoseconds ≤
        (Duration.ofSeconds policy.maxBackoff.toNat).nanoseconds) ∧
    ((doublings failures).toNat < 64 ∧
      ((1 : UInt64) <<< doublings failures).toNat = 2 ^ (doublings failures).toNat) ∧
    policy.backoff failures = .ofSeconds (min
      (policy.minBackoff.toNat * ((1 : UInt64) <<< doublings failures).toNat)
      policy.maxBackoff.toNat) ∧
    (policy.backoff failures = .ofSeconds (min
        (policy.minBackoff.toNat * 2 ^ (failures.toNat - 1)) policy.maxBackoff.toNat) ↔
      failures ≤ 33 ∨ policy.maxBackoff.toNat ≤ policy.minBackoff.toNat * 2 ^ 32 ∨
        policy.minBackoff = 0) := by
  have ofSeconds_inj : ∀ {seconds other : Nat},
      Duration.ofSeconds seconds = .ofSeconds other ↔ seconds = other := by
    intro seconds other
    simp only [Duration.ofSeconds, Duration.perSecond, Duration.mk.injEq]
    omega
  refine ⟨⟨?_, ?_⟩, ⟨?_, ?_⟩, ?_, ?_⟩
  · exact Nat.mul_le_mul_right _ (UInt64.le_iff_toNat_le.mp (policy.backoffSeconds_mono more))
  · apply Nat.mul_le_mul_right
    rw [toNat_backoffSeconds]
    exact Nat.min_le_right _ _
  · rw [toNat_doublings]
    omega
  · rw [toNat_shiftLeft_doublings, toNat_doublings]
  · rw [backoff, ofSeconds_inj, toNat_backoffSeconds, toNat_shiftLeft_doublings]
  · rw [backoff, ofSeconds_inj, toNat_backoffSeconds_eq_iff]

/-- A policy whose first delay does not fit into a word when it is doubled 33 times. -/
def steep : RetryPolicy := ⟨5, 8589934592, 18446744073709551615⟩

/-- After 34 failures only 32 doublings are counted, but the longest delay was reached before. -/
theorem backoff_doubles_iff_steep :
    (34 : UInt32) ≤ 4294967295 ∧
      (steep.backoff 34).nanoseconds ≤ (steep.backoff 4294967295).nanoseconds ∧
      steep.backoff 34 = .ofSeconds (min (8589934592 * 2 ^ 33) 18446744073709551615) := by
  have more : (34 : UInt32) ≤ 4294967295 := by decide
  obtain ⟨⟨grows, -⟩, -, -, doubles⟩ := steep.backoff_doubles_iff more
  exact ⟨more, grows, doubles.mpr (.inr (.inl (by decide)))⟩

end BatchChanges.RetryPolicy
