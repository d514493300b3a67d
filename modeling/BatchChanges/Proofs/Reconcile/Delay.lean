import BatchChanges.Proofs.Attempt.Course
import BatchChanges.Proofs.Retry

/-! # How long a failed changeset waits

The delay of a retry grows with every failure in a row, up to the longest one of the policy. An
instant can be moved by 2^63 - 1 milliseconds at most. A longer delay counts as none at all, so that
a changeset which should wait for longest is tried again at once; every other retry is due exactly
after its delay, or is not put on record because the calendar ends before.
-/

namespace BatchChanges

namespace Time

/-- An instant is reached from another one after one duration only. -/
theorem add?_injective {now time : Time} {wait other : Duration}
    (reached : now.add? wait = some time) (again : now.add? other = some time) : wait = other := by
  have bound := now.nanosecond_lt
  obtain ⟨length⟩ := wait
  obtain ⟨length'⟩ := other
  simp only [add?] at reached again
  simp only [Duration.mk.injEq]
  split at reached <;> split at again
  all_goals
    have := ofParts?_eq_some reached
    have := ofParts?_eq_some again
    simp only [Duration.perSecond] at *
    omega

private theorem add?_zero (now : Time) : now.add? ⟨0⟩ = some now := by
  have bound := now.nanosecond_lt
  have whole : Duration.perSecond ≤ now.nanosecond ∨
      now.nanosecond % Duration.perSecond = now.nanosecond ∧
        now.nanosecond / Duration.perSecond = 0 := by
    simp only [Duration.perSecond]
    omega
  simp only [add?, Nat.add_zero]
  split
  · exact ofParts?_parts now
  · next within =>
    rcases whole with leap | ⟨same, none⟩
    · exact absurd ⟨leap, bound⟩ within
    · simpa [same, none] using ofParts?_parts now

/-- The calendar ends before a duration has passed by which no instant can be moved. -/
theorem add?_of_not_isSpan {wait : Duration} (long : wait.isSpan = false) (now : Time) :
    now.add? wait = none := by
  have first := now.first_le
  obtain ⟨length⟩ := wait
  have longer : ¬ length ≤ 9223372036854775807 * 1000000 := of_decide_eq_false long
  cases reached : now.add? ⟨length⟩ with
  | none => rfl
  | some time =>
    have last := time.le_last
    simp only [add?] at reached
    split at reached
    all_goals
      have := ofParts?_eq_some reached
      simp only [Duration.perSecond] at *
      omega

end Time

namespace RetryPolicy

/-- The longest delay that an instant can be moved by, in seconds. -/
def longestDelay : Nat := 9223372036854775

private theorem isSpan_backoff_iff (policy : RetryPolicy) (failures : UInt32) :
    (policy.backoff failures).isSpan = true ↔
      (policy.backoffSeconds failures).toNat ≤ longestDelay := by
  rw [Duration.isSpan, decide_eq_true_iff]
  change (policy.backoffSeconds failures).toNat * 1000000000 ≤ 9223372036854775807 * 1000000 ↔ _
  simp only [longestDelay]
  omega

private theorem delay_of_le {policy : RetryPolicy} {failures : UInt32}
    (short : (policy.backoffSeconds failures).toNat ≤ longestDelay) :
    policy.delay failures = policy.backoff failures :=
  if_pos ((isSpan_backoff_iff policy failures).mpr short)

private theorem delay_of_lt {policy : RetryPolicy} {failures : UInt32}
    (long : longestDelay < (policy.backoffSeconds failures).toNat) :
    policy.delay failures = ⟨0⟩ :=
  if_neg fun span => absurd ((isSpan_backoff_iff policy failures).mp span) (Nat.not_le.mpr long)

/-- After more failures the wait is not shorter, unless a delay that counts as none takes the place
of one that does not. -/
theorem delay_le_iff (policy : RetryPolicy) {failures later : UInt32} (more : failures ≤ later) :
    (policy.delay failures).nanoseconds ≤ (policy.delay later).nanoseconds ↔
      (policy.backoffSeconds later).toNat ≤ longestDelay ∨
        longestDelay < (policy.backoffSeconds failures).toNat ∨
        policy.backoffSeconds failures = 0 := by
  have grows := UInt64.le_iff_toNat_le.mp (policy.backoffSeconds_mono more)
  have zero : policy.backoffSeconds failures = 0 ↔ (policy.backoffSeconds failures).toNat = 0 := by
    rw [← UInt64.toNat_inj]
    rfl
  rcases Nat.lt_or_ge longestDelay (policy.backoffSeconds failures).toNat with long | short
  · simp [delay_of_lt long, long]
  · rw [delay_of_le short, zero]
    rcases Nat.lt_or_ge longestDelay (policy.backoffSeconds later).toNat with long | still
    · rw [delay_of_lt long]
      simp only [backoff, Duration.ofSeconds, Duration.perSecond]
      omega
    · rw [delay_of_le still]
      simp only [backoff, Duration.ofSeconds, Duration.perSecond]
      omega

end RetryPolicy

/-- Failures of the store pass, and of those of the code host the ones that are about reaching
it. -/
theorem ReconcileError.isRetryable_iff (error : ReconcileError) :
    error.isRetryable = true ↔ (∃ cause, error = .store cause) ∨
      ∃ operation cause, error = .host operation cause ∧
        ((∃ detail, cause = .network detail) ∨ cause = .rateLimited ∨
          ∃ detail, cause = .unavailable detail) := by
  cases error with
  | store cause => simp [isRetryable]
  | host operation cause => cases cause <;> simp [isRetryable, HostError.isRetryable]
  | _ => simp [isRetryable]

private theorem countFailure_mono {failures later : UInt32} (more : failures ≤ later) :
    countFailure failures ≤ countFailure later := by
  rw [UInt32.le_iff_toNat_le, toNat_countFailure, toNat_countFailure]
  have := UInt32.le_iff_toNat_le.mp more
  omega

namespace Changeset

variable {row outcome : Changeset} {policy : RetryPolicy} {error : ReconcileError} {now : Time}

/-- A failure is counted, and its retry is after the delay, if there is one. -/
theorem retry_of_failed (settled : row.settled? policy (some error) now = some outcome) :
    outcome.failures = countFailure row.failures ∧
      (policy.retries error outcome.failures = true ∧
          (∃ time, outcome.processAfter = some time ∧
            now.add? (policy.delay outcome.failures) = some time) ∨
        policy.retries error outcome.failures = false ∧ outcome.processAfter = none) := by
  simp only [settled?] at settled
  split at settled
  · next retries =>
    obtain ⟨time, reached, rfl⟩ := Option.map_eq_some_iff.mp settled
    exact ⟨rfl, .inl ⟨retries, time, rfl, reached⟩⟩
  · next final =>
    cases settled
    exact ⟨rfl, .inr ⟨Bool.eq_false_iff.mpr final, rfl⟩⟩

private theorem add?_of_retry {time : Time}
    (settled : row.settled? policy (some error) now = some outcome)
    (scheduled : outcome.processAfter = some time) :
    now.add? (policy.delay outcome.failures) = some time := by
  rcases (retry_of_failed settled).2 with ⟨-, later, same, reached⟩ | ⟨-, never⟩
  · rw [same] at scheduled
    exact scheduled ▸ reached
  · rw [never] at scheduled
    cases scheduled

/-- Nothing is put on record if the calendar ends before the retry. -/
theorem settled?_eq_none_iff : row.settled? policy (some error) now = none ↔
    policy.retries error (countFailure row.failures) = true ∧
      now.add? (policy.delay (countFailure row.failures)) = none := by
  simp only [settled?]
  split
  · next retries => simp [retries]
  · next final => simp [final]

end Changeset

open RetryPolicy in
/-- For every policy, changeset, failure and time: the failure is counted, up to the largest number,
and a retry is put on record exactly if the failure may pass by itself and the policy allows another
attempt; nothing at all is put on record exactly if the retry would be after the end of the
calendar. The retry is due after the whole delay of the policy if and only if an instant can be
moved by it; if not, it is due at once. So a failure that comes with no fewer failures on record
than another one is given no shorter wait, unless the other wait can be waited for and this one
cannot. -/
theorem retry_waits_in_full_iff (policy : RetryPolicy) (row : Changeset) (error : ReconcileError)
    (now : Time) :
    (error.isRetryable = true ↔ (∃ cause, error = .store cause) ∨
      ∃ operation cause, error = .host operation cause ∧
        ((∃ detail, cause = .network detail) ∨ cause = .rateLimited ∨
          ∃ detail, cause = .unavailable detail)) ∧
    (row.settled? policy (some error) now = none ↔
      (error.isRetryable = true ∧ countFailure row.failures < policy.maxAttempts) ∧
        (policy.backoffSeconds (countFailure row.failures)).toNat ≤ longestDelay ∧
        now.add? (policy.backoff (countFailure row.failures)) = none) ∧
    ∀ outcome, row.settled? policy (some error) now = some outcome →
      outcome.failures.toNat = min (row.failures.toNat + 1) (2 ^ 32 - 1) ∧
      (outcome.processAfter.isSome = true ↔
        error.isRetryable = true ∧ outcome.failures < policy.maxAttempts) ∧
      ∀ time, outcome.processAfter = some time →
        (now.add? (policy.backoff outcome.failures) = some time ↔
          (policy.backoffSeconds outcome.failures).toNat ≤ longestDelay) ∧
        (longestDelay < (policy.backoffSeconds outcome.failures).toNat → time = now) ∧
        ∀ (later final : Changeset) cause (instant due : Time) (wait other : Duration),
          later.settled? policy (some cause) instant = some final →
          row.failures ≤ later.failures → final.processAfter = some due →
          now.add? wait = some time → instant.add? other = some due →
          (wait.nanoseconds ≤ other.nanoseconds ↔
            (policy.backoffSeconds final.failures).toNat ≤ longestDelay ∨
              longestDelay < (policy.backoffSeconds outcome.failures).toNat ∨
              policy.backoffSeconds outcome.failures = 0) := by
  have allowed : ∀ failures, policy.retries error failures = true ↔
      error.isRetryable = true ∧ failures < policy.maxAttempts := by
    intro failures
    rw [retries, shouldRetry, Bool.and_eq_true, decide_eq_true_eq]
  refine ⟨error.isRetryable_iff, ?_, fun outcome settled => ?_⟩
  · rw [Changeset.settled?_eq_none_iff, allowed]
    refine and_congr_right fun _ => ?_
    rcases Nat.lt_or_ge longestDelay (policy.backoffSeconds (countFailure row.failures)).toNat with
      long | short
    · -- A delay that counts as none leads to `now`, which is in the calendar.
      simp [delay_of_lt long, Time.add?_zero, Nat.not_le.mpr long]
    · simp [delay_of_le short, short]
  · obtain ⟨counted, retried⟩ := Changeset.retry_of_failed settled
    refine ⟨counted ▸ toNat_countFailure _, ?_, fun time scheduled => ?_⟩
    · rw [← allowed]
      rcases retried with ⟨retries, time, scheduled, -⟩ | ⟨final, never⟩
      · simp [retries, scheduled]
      · simp [final, never]
    · have reached := Changeset.add?_of_retry settled scheduled
      refine ⟨⟨fun full => ?_, fun short => ?_⟩, fun long => ?_, ?_⟩
      · refine Nat.le_of_not_lt fun long => ?_
        rw [Time.add?_of_not_isSpan] at full
        · cases full
        · exact Bool.eq_false_iff.mpr fun span =>
            absurd ((isSpan_backoff_iff _ _).mp span) (Nat.not_le.mpr long)
      · rwa [delay_of_le short] at reached
      · rw [delay_of_lt long, Time.add?_zero, Option.some_inj] at reached
        exact reached.symm
      · intro later final cause instant due wait other again more rescheduled waited waits
        have same := Time.add?_injective waited reached
        have same' := Time.add?_injective waits (Changeset.add?_of_retry again rescheduled)
        rw [same, same', policy.delay_le_iff]
        rw [counted, (Changeset.retry_of_failed again).1]
        exact countFailure_mono more

namespace Delayed

/-- A failure that may pass by itself. -/
def unreachable : ReconcileError := .host .push (.network "connection reset")

/-- A changeset after some failures in a row. -/
def failed (failures : UInt32) : Changeset where
  id := ⟨1⟩
  repoId := ⟨1⟩
  codeHost := .github
  failures := failures
  createdAt := .epoch
  updatedAt := .epoch

/-- All delays are the longest one that can be written down. -/
def endless : RetryPolicy := ⟨5, 18446744073709551615, 18446744073709551615⟩

/-- The delays grow from a trillion seconds on. -/
def growing : RetryPolicy := ⟨99, 1000000000000, 18446744073709551615⟩

end Delayed

open Delayed in
/-- By the default policy the first retry is due after ten seconds and the second one after twenty,
which is not shorter. -/
theorem retry_waits_in_full_iff_default : ∃ first second time due,
    (failed 0).settled? {} (some unreachable) .epoch = some first ∧
      (failed 1).settled? {} (some unreachable) .epoch = some second ∧
      first.processAfter = some time ∧ second.processAfter = some due ∧
      Time.epoch.add? (.ofSeconds 10) = some time ∧ Time.epoch.add? (.ofSeconds 20) = some due ∧
      (Duration.ofSeconds 10).nanoseconds ≤ (Duration.ofSeconds 20).nanoseconds := by
  obtain ⟨first, settled, one, scheduled⟩ : ∃ first,
      (failed 0).settled? {} (some unreachable) .epoch = some first ∧ first.failures = 1 ∧
        first.processAfter.isSome = true := by decide
  obtain ⟨second, again, two, rescheduled⟩ : ∃ second,
      (failed 1).settled? {} (some unreachable) .epoch = some second ∧ second.failures = 2 ∧
        second.processAfter.isSome = true := by decide
  obtain ⟨time, here⟩ := Option.isSome_iff_exists.mp scheduled
  obtain ⟨due, there⟩ := Option.isSome_iff_exists.mp rescheduled
  have doubles := (((retry_waits_in_full_iff {} (failed 0) unreachable .epoch).2.2 first
    settled).2.2 time here)
  have waits := (((retry_waits_in_full_iff {} (failed 1) unreachable .epoch).2.2 second
    again).2.2 due there).1
  rw [one] at doubles
  rw [two] at waits
  have ten := doubles.1.mpr (by decide)
  have twenty := waits.mpr (by decide)
  refine ⟨first, second, time, due, settled, again, here, there, ten, twenty, ?_⟩
  exact (doubles.2.2 (failed 1) second unreachable .epoch due _ _ again (by decide) there ten
    twenty).mpr (.inl (two ▸ by decide))

open Delayed in
/-- A delay that is too long to be waited for counts as none: the retry is due at once, and earlier
than the one after fewer failures. -/
theorem retry_due_at_once :
    (∃ outcome, (failed 0).settled? endless (some unreachable) .epoch = some outcome ∧
      outcome.processAfter = some .epoch ∧
      endless.backoffSeconds outcome.failures = 18446744073709551615 ∧
      Time.epoch.add? (endless.backoff outcome.failures) ≠ some .epoch) ∧
    ∃ earlier, (failed 0).settled? growing (some unreachable) .epoch = some earlier ∧
      ∃ later, (failed 20).settled? growing (some unreachable) .epoch = some later ∧
        ∃ time, earlier.processAfter = some time ∧ later.processAfter = some .epoch ∧
          Time.epoch < time := by
  decide

end BatchChanges
