import BatchChanges.Retry
import BatchChanges.Text.Decimal

/-! # Settings of the reconciler

Every setting has a default. Settings are shown as a YAML mapping, a line for each in a fixed
order.
-/

namespace BatchChanges

/-- How the reconciler works. -/
structure Settings where
  /-- The number of workers; none stands for one. -/
  workers : UInt64 := 4
  /-- How long an idle worker waits before it looks for work again, in milliseconds. -/
  pollMilliseconds : UInt64 := 1000
  /-- How long a worker holds a changeset without renewing its lease, in seconds. -/
  leaseSeconds : UInt64 := 300
  /-- How long the code host is given to digest a push, in seconds. -/
  sleepSeconds : UInt64 := 3
  retry : RetryPolicy := {}
deriving DecidableEq

namespace Settings

def pollInterval (settings : Settings) : Duration :=
  .ofMilliseconds settings.pollMilliseconds.toNat

def leaseDuration (settings : Settings) : Duration := .ofSeconds settings.leaseSeconds.toNat

def sleepAfterPush (settings : Settings) : Duration := .ofSeconds settings.sleepSeconds.toNat

def toJson (settings : Settings) : Json :=
  .object [("workers", .natural settings.workers.toNat),
    ("poll_interval_ms", .natural settings.pollMilliseconds.toNat),
    ("lease_duration_secs", .natural settings.leaseSeconds.toNat),
    ("sleep_after_push_secs", .natural settings.sleepSeconds.toNat),
    ("retry", settings.retry.toJson)]

def fieldNames : List String :=
  ["workers", "poll_interval_ms", "lease_duration_secs", "sleep_after_push_secs", "retry"]

def read? {V : Type} [Document V] (value : V) : Option Settings := do
  let standard : Settings := {}
  let fields : Fields V ← Document.record? fieldNames value
  return {
    workers := ← fields.withDefault "workers" standard.workers Document.uint64?
    pollMilliseconds :=
      ← fields.withDefault "poll_interval_ms" standard.pollMilliseconds Document.uint64?
    leaseSeconds :=
      ← fields.withDefault "lease_duration_secs" standard.leaseSeconds Document.uint64?
    sleepSeconds :=
      ← fields.withDefault "sleep_after_push_secs" standard.sleepSeconds Document.uint64?
    retry := ← fields.withDefault "retry" standard.retry RetryPolicy.read? }

def yamlLine (depth : Nat) (name value : String) : String :=
  String.ofList (List.replicate depth ' ') ++ name ++ ":" ++ value ++ "\n"

def yamlNumber (depth : Nat) (name : String) (number : Nat) : String :=
  yamlLine depth name (" " ++ String.ofList (Text.Decimal.digits number))

/-- The settings as a YAML text. -/
def toYaml (settings : Settings) : String :=
  yamlNumber 0 "workers" settings.workers.toNat ++
    yamlNumber 0 "poll_interval_ms" settings.pollMilliseconds.toNat ++
    yamlNumber 0 "lease_duration_secs" settings.leaseSeconds.toNat ++
    yamlNumber 0 "sleep_after_push_secs" settings.sleepSeconds.toNat ++
    yamlLine 0 "retry" "" ++
    yamlNumber 2 "max_attempts" settings.retry.maxAttempts.toNat ++
    yamlNumber 2 "min_backoff_secs" settings.retry.minBackoff.toNat ++
    yamlNumber 2 "max_backoff_secs" settings.retry.maxBackoff.toNat

end Settings

end BatchChanges
