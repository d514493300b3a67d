import BatchChanges.Changeset.Codec

/-! # Leases

A lease is a worker's exclusive claim on a changeset, for a time. Its token tells it from every
other lease on the same changeset: a worker whose lease was taken away still holds its token, and
the store knows by it that the worker is late.
-/

namespace BatchChanges

/-- A claim on a changeset. -/
structure Lease where
  changesetId : ChangesetId
  workerId : String
  token : String
  expiresAt : Time
deriving DecidableEq

namespace Lease

/-- A lease has ended at the instant of its expiry. -/
def isExpired (lease : Lease) (now : Time) : Bool := decide (lease.expiresAt ≤ now)

def toJson (lease : Lease) : Json :=
  .object [("changeset_id", lease.changesetId.toJson), ("worker_id", .text lease.workerId),
    ("token", .text lease.token), ("expires_at", lease.expiresAt.toJson)]

def read? {V : Type} [Document V] (value : V) : Option Lease := do
  let fields : Fields V ←
    Document.record? ["changeset_id", "worker_id", "token", "expires_at"] value
  return {
    changesetId := ← fields.required "changeset_id" Id.read?
    workerId := ← fields.required "worker_id" Document.text?
    token := ← fields.required "token" Document.text?
    expiresAt := ← fields.required "expires_at" Time.read? }

end Lease

/-- What became of something written under a lease. -/
inductive Verdict where
  | applied
  /-- The changeset does not exist any more. -/
  | rowGone
  /-- The lease has ended, or another one took its place. -/
  | leaseLost
deriving DecidableEq

namespace Verdict

def isApplied (verdict : Verdict) : Bool := verdict == applied

end Verdict

end BatchChanges
