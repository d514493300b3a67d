import BatchChanges.Reconcile.Error
import BatchChanges.Retry

/-! # What an attempt leaves behind

A changeset whose attempt succeeded is completed and its record of failures is cleared. A failure is
counted and its message kept. It is tried again after the delay of the retry policy, if it may pass
by itself and there have not been too many in a row.
-/

namespace BatchChanges

/-- One more failure; the count stops at its largest value. -/
def countFailure (failures : UInt32) : UInt32 :=
  if failures.toNat + 1 < UInt32.size then failures + 1 else failures

namespace RetryPolicy

/-- The delay before the next attempt; none at all if it is too long to be waited for. -/
def delay (policy : RetryPolicy) (failures : UInt32) : Duration :=
  if (policy.backoff failures).isSpan then policy.backoff failures else ⟨0⟩

/-- Whether a failure that is the `failures`-th in a row is tried again. -/
def retries (policy : RetryPolicy) (error : ReconcileError) (failures : UInt32) : Bool :=
  error.isRetryable && policy.shouldRetry failures

end RetryPolicy

namespace Changeset

/-- The changeset after an attempt that succeeded. -/
def completed (changeset : Changeset) (now : Time) : Changeset :=
  { changeset with
    queueState := .completed, failureMessage := none, failures := 0, processAfter := none
    updatedAt := now }

def errored (changeset : Changeset) (error : ReconcileError) (retryAt : Option Time) (now : Time) :
    Changeset :=
  { changeset with
    queueState := .errored, failureMessage := some error.message
    failures := countFailure changeset.failures, processAfter := retryAt
    updatedAt := now }

/-- The changeset after an attempt; there is none if the next attempt would be after the end of the
calendar. -/
def settled? (changeset : Changeset) (policy : RetryPolicy) (failure : Option ReconcileError)
    (now : Time) : Option Changeset :=
  match failure with
  | none => some (changeset.completed now)
  | some error =>
    let failures := countFailure changeset.failures
    if policy.retries error failures then
      (now.add? (policy.delay failures)).map fun time => changeset.errored error (some time) now
    else some (changeset.errored error none now)

end Changeset

end BatchChanges
