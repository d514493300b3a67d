import BatchChanges.Interrupt
import BatchChanges.Store

/-! # The queue of changesets

Changesets wait in the store until a worker claims them. A claim takes the one that has been
unchanged for longest among those that are queued, due and under no lease. What a worker found out
is written back only while its lease stands, and only into the columns that are the reconciler's:
what campaigns want of the changeset may have changed in the meantime and stays.
-/

namespace BatchChanges

namespace Changeset

/-- Whether a queued changeset may be processed now. -/
def isDue (changeset : Changeset) (now : Time) : Bool :=
  changeset.queueState == .queued && changeset.processAfter.all fun time => decide (time ≤ now)

/-- Whether a changeset has been unchanged for longer than another, or as long with the smaller
number. -/
def isServedBefore (changeset other : Changeset) : Bool :=
  decide (changeset.updatedAt < other.updatedAt) ||
    (changeset.updatedAt == other.updatedAt && decide (changeset.id ≤ other.id))

def first? : List Changeset → Option Changeset
  | [] => none
  | changeset :: rest =>
    match first? rest with
    | none => some changeset
    | some other => if changeset.isServedBefore other then some changeset else some other

/-- The failure of a changeset whose processing was canceled. -/
def canceledMessage : String := "canceled"

/-- Whether a changeset of a campaign waits to be processed, now or after a delay. -/
def isCancelable (changeset : Changeset) (campaign : CampaignId) : Bool :=
  changeset.isOwnedBy campaign && changeset.isAttachedTo campaign &&
    match changeset.queueState with
    | .queued => true
    | .errored => changeset.processAfter.isSome
    | .processing | .completed => false

/-- Takes a changeset out of the queue. -/
def canceled (changeset : Changeset) : Changeset :=
  { changeset with
    queueState := .errored, failureMessage := some canceledMessage, processAfter := none }

def isRetryDue (changeset : Changeset) (now : Time) (maxAttempts : UInt32) : Bool :=
  changeset.queueState == .errored &&
    changeset.processAfter.any (fun time => decide (time ≤ now)) &&
    decide (changeset.failures < maxAttempts)

/-- Gives a changeset that was being processed back to the queue. -/
def released (changeset : Changeset) : Changeset :=
  if changeset.queueState = .processing then { changeset with queueState := .queued } else changeset

/-- Writes a worker's outcome into a changeset. What is known of the pull request is taken over. A
wish to close ends only if it was known at the claim and has been fulfilled. The state in the queue
is taken over only if nobody has changed it since the claim. -/
def withOutcome (row outcome : Changeset) (closingAtClaim : Bool) : Changeset :=
  let processing := row.queueState == .processing
  { row with
    externalId := outcome.externalId
    externalBranch := outcome.externalBranch
    externalState := outcome.externalState
    externalTitle := outcome.externalTitle
    externalUpdatedAt := outcome.externalUpdatedAt
    diffStat := outcome.diffStat <|> row.diffStat
    publication := outcome.publication
    unsynced := outcome.unsynced
    closing := if closingAtClaim && !outcome.closing then false else row.closing
    queueState := if processing then outcome.queueState else row.queueState
    failureMessage := if processing then outcome.failureMessage else row.failureMessage
    failures := if processing then outcome.failures else row.failures
    processAfter := if processing then outcome.processAfter else row.processAfter
    updatedAt := outcome.updatedAt }

end Changeset

namespace Store

/-- The number of changesets that a test accepts. -/
def count (store : Store) (test : Changeset → Bool) : Nat :=
  (store.changesets.rows.filter test).length

def updateWhere (store : Store) (test : Changeset → Bool) (revise : Changeset → Changeset) :
    Store :=
  { store with
    changesets := store.changesets.map fun changeset =>
      if test changeset then revise changeset else changeset }

/-- The instant at which a lease of this length ends. -/
def expiry (now : Time) (length : Duration) : Except (Interrupt StoreError) Time :=
  if length.isSpan then
    match now.add? length with
    | some time => .ok time
    | none => .error .overflow
  else
    .error (.failed (.backend
      "invalid lease duration: Source duration value is out of range for the target type"))

def candidate? (store : Store) (now : Time) : Option Changeset :=
  Changeset.first? (store.changesets.rows.filter fun changeset =>
    changeset.isDue now && !store.leases.contains changeset.id)

/-- Claims the next changeset for a worker, under a lease with the given token. Without such a
changeset nothing happens, whatever the length of the lease. -/
def leaseNext (store : Store) (worker token : String) (now : Time) (length : Duration) :
    Except (Interrupt StoreError) (Option (Changeset × Lease) × Store) :=
  match store.candidate? now with
  | none => .ok (none, store)
  | some row => do
    let lease : Lease := ⟨row.id, worker, token, ← expiry now length⟩
    let claimed := { row with queueState := .processing }
    return (some (claimed, lease), { store with
      changesets := store.changesets.insert row.id claimed
      leases := store.leases.insert row.id ⟨lease, claimed.closing⟩ })

/-- Prolongs a lease that still stands. -/
def renew (store : Store) (lease : Lease) (now : Time) (length : Duration) :
    Except (Interrupt StoreError) ((Verdict × Lease) × Store) :=
  if store.changesets.contains lease.changesetId then
    match store.leases.find? lease.changesetId with
    | none => .ok ((.leaseLost, lease), store)
    | some record =>
      if record.lease.token = lease.token then do
        let expiresAt ← expiry now length
        let renewed : LeaseRecord :=
          { record with lease := { record.lease with expiresAt } }
        return ((.applied, { lease with expiresAt }),
          { store with leases := store.leases.insert lease.changesetId renewed })
      else .ok ((.leaseLost, lease), store)
  else .ok ((.rowGone, lease), store)

/-- Ends a lease that still stands and writes the worker's outcome back. -/
def finish (store : Store) (lease : Lease) (outcome : Changeset) : Verdict × Store :=
  match store.leases.find? lease.changesetId with
  | none => (.leaseLost, store)
  | some record =>
    if record.lease.token = lease.token then
      let freed := { store with leases := store.leases.erase lease.changesetId }
      match store.changesets.find? lease.changesetId with
      | none => (.rowGone, freed)
      | some row =>
        (.applied, { freed with
          changesets := store.changesets.insert lease.changesetId
            (row.withOutcome outcome record.closingAtClaim) })
    else (.leaseLost, store)

/-- Takes the waiting changesets of a campaign out of the queue and counts them. -/
def cancelQueued (store : Store) (campaign : CampaignId) : Nat × Store :=
  (store.count (·.isCancelable campaign),
    store.updateWhere (·.isCancelable campaign) Changeset.canceled)

/-- Puts failed changesets that are to be tried again back into the queue and counts them. -/
def requeueDue (store : Store) (now : Time) (maxAttempts : UInt32) : Nat × Store :=
  (store.count (·.isRetryDue now maxAttempts),
    store.updateWhere (·.isRetryDue now maxAttempts) ({ · with queueState := .queued }))

/-- Drops leases that have ended, gives their changesets back to the queue, and counts the
leases. -/
def resetExpired (store : Store) (now : Time) : Nat × Store :=
  let expired := store.leases.filter fun _ record => record.lease.isExpired now
  (expired.size, { store with
    leases := store.leases.filter fun _ record => !record.lease.isExpired now
    changesets := store.changesets.mapWithId fun id changeset =>
      if expired.contains id then changeset.released else changeset })

end Store

end BatchChanges
