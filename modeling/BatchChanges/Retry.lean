import BatchChanges.Document
import BatchChanges.Time

/-! # Retries

A failed attempt is repeated after a delay that doubles with every failure in a row, up to a limit,
and at most a given number of times.
-/

namespace BatchChanges

/-- How often, and how far apart, failed attempts are repeated. -/
structure RetryPolicy where
  /-- The number of failures after which a changeset is given up. -/
  maxAttempts : UInt32 := 3
  /-- The delay after the first failure, in seconds. -/
  minBackoff : UInt64 := 10
  /-- The longest delay, in seconds. -/
  maxBackoff : UInt64 := 300
deriving DecidableEq

namespace RetryPolicy

/-- The product of two words, or the largest word if that is smaller. -/
def saturatingMul (left right : UInt64) : UInt64 :=
  if left.toNat * right.toNat < UInt64.size then left * right else UInt64.ofNat (UInt64.size - 1)

/-- How often the delay has doubled by the `failures`-th failure; no more than 32 times. -/
def doublings (failures : UInt32) : UInt64 :=
  UInt64.ofNat (min (failures.toNat - 1) 32)

/-- The delay after the `failures`-th failure in a row, in seconds. -/
def backoffSeconds (policy : RetryPolicy) (failures : UInt32) : UInt64 :=
  min (saturatingMul policy.minBackoff (1 <<< doublings failures)) policy.maxBackoff

/-- The delay after the `failures`-th failure in a row. -/
def backoff (policy : RetryPolicy) (failures : UInt32) : Duration :=
  .ofSeconds (policy.backoffSeconds failures).toNat

def shouldRetry (policy : RetryPolicy) (failures : UInt32) : Bool :=
  decide (failures < policy.maxAttempts)

def toJson (policy : RetryPolicy) : Json :=
  .object [("max_attempts", .natural policy.maxAttempts.toNat),
    ("min_backoff_secs", .natural policy.minBackoff.toNat),
    ("max_backoff_secs", .natural policy.maxBackoff.toNat)]

def fieldNames : List String := ["max_attempts", "min_backoff_secs", "max_backoff_secs"]

def read? {V : Type} [Document V] (value : V) : Option RetryPolicy := do
  let standard : RetryPolicy := {}
  let fields : Fields V ← Document.record? fieldNames value
  return {
    maxAttempts := ← fields.withDefault "max_attempts" standard.maxAttempts Document.uint32?
    minBackoff := ← fields.withDefault "min_backoff_secs" standard.minBackoff Document.uint64?
    maxBackoff := ← fields.withDefault "max_backoff_secs" standard.maxBackoff Document.uint64? }

end RetryPolicy

end BatchChanges
