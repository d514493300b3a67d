import BatchChanges.Proofs.Attempt.Knowledge
import BatchChanges.Proofs.System.Requeue

/-! # What a write-back touches

A worker's outcome is a whole row, made from the one that was claimed, and the stored row may have
changed in the meantime. The write-back merges the two. What a changeset is and what campaigns want
of it come from the stored row, except that a wish to close ends if it was there at the claim and is
not in the outcome any more. What is known of the pull request comes from the outcome. The place in
the queue comes from the outcome as long as the row is in processing, and else from the stored row.
Nothing else in the store changes, but that the lease ends.
-/

namespace BatchChanges

/-- What the code host said about a pull request, besides what matters for plans. -/
def Changeset.details (row : Changeset) : Option String × Option String × Option Time :=
  (row.externalBranch, row.externalTitle, row.externalUpdatedAt)

/-- A stored row after an outcome was written back into it, column by column. -/
structure Changeset.WrittenBack (row outcome : Changeset) (closingAtClaim : Bool)
    (after : Changeset) : Prop where
  identity : after.identity = row.identity
  campaignIds : after.campaignIds = row.campaignIds
  currentSpecId : after.currentSpecId = row.currentSpecId
  previousSpecId : after.previousSpecId = row.previousSpecId
  /-- A wish to close ends if it was there at the claim and has been fulfilled; none comes up. -/
  closing : after.closing = true ↔
    row.closing = true ∧ (closingAtClaim = true → outcome.closing = true)
  place : after.place = if row.queueState = .processing then outcome.place else row.place
  sight : after.sight = outcome.sight
  details : after.details = outcome.details
  diffStat : after.diffStat = (outcome.diffStat <|> row.diffStat)
  updatedAt : after.updatedAt = outcome.updatedAt

/-- This is what a write-back makes of a row, whatever became of the row since the claim. -/
theorem Changeset.writtenBack_withOutcome (row outcome : Changeset) (closingAtClaim : Bool) :
    row.WrittenBack outcome closingAtClaim (row.withOutcome outcome closingAtClaim) where
  identity := rfl
  campaignIds := rfl
  currentSpecId := rfl
  previousSpecId := rfl
  closing := by
    simp only [withOutcome]
    cases closingAtClaim <;> cases outcome.closing <;> simp
  place := by
    split
    · next busy => simp only [place, withOutcome, busy, beq_self_eq_true, if_true]
    · next idle => exact place_withOutcome idle outcome closingAtClaim
  sight := rfl
  details := rfl
  diffStat := rfl
  updatedAt := rfl

namespace Store

/-- All that a store holds is as it was, apart from one changeset, and no lease is left on that
one. -/
structure Releases (store : Store) (id : ChangesetId) (next : Store) : Prop where
  repos : next.repos = store.repos
  campaignSpecs : next.campaignSpecs = store.campaignSpecs
  changesetSpecs : next.changesetSpecs = store.changesetSpecs
  campaigns : next.campaigns = store.campaigns
  lastId : next.lastId = store.lastId
  rows {other : ChangesetId} (different : other ≠ id) :
    next.changesets.find? other = store.changesets.find? other
  leases {other : ChangesetId} (different : other ≠ id) :
    next.leases.find? other = store.leases.find? other
  released : next.leases.find? id = none

/-- How a write-back ends, and what it leaves in the store. -/
inductive WriteBack (store : Store) (lease : Lease) (outcome : Changeset) :
    Verdict → Store → Prop
  /-- The lease is missing, or another one has taken its place. -/
  | lost (lost : ¬ store.Holds lease) : WriteBack store lease outcome .leaseLost store
  /-- The changeset was deleted. -/
  | rowGone {next : Store} (holds : store.Holds lease)
      (missing : store.changesets.find? lease.changesetId = none)
      (releases : store.Releases lease.changesetId next)
      (absent : next.changesets.find? lease.changesetId = none) :
      WriteBack store lease outcome .rowGone next
  /-- The outcome is merged into the row. -/
  | applied {next : Store} {record : LeaseRecord} {row after : Changeset}
      (leased : store.leases.find? lease.changesetId = some record)
      (same : record.lease.token = lease.token)
      (found : store.changesets.find? lease.changesetId = some row)
      (releases : store.Releases lease.changesetId next)
      (stored : next.changesets.find? lease.changesetId = some after)
      (written : row.WrittenBack outcome record.closingAtClaim after) :
      WriteBack store lease outcome .applied next

/-- Every write-back ends in one of these ways, whatever the store, the lease and the outcome. -/
theorem writeBack_finish (store : Store) (lease : Lease) (outcome : Changeset) :
    store.WriteBack lease outcome (store.finish lease outcome).1
      (store.finish lease outcome).2 := by
  by_cases holds : store.Holds lease
  · obtain ⟨record, leased, same⟩ := holds
    have others : ∀ {other}, other ≠ lease.changesetId →
        (store.leases.erase lease.changesetId).find? other = store.leases.find? other := by
      intro other different
      rw [Table.find?_erase, if_neg different.symm]
    have released : (store.leases.erase lease.changesetId).find? lease.changesetId = none := by
      rw [Table.find?_erase, if_pos rfl]
    rw [finish_of_record leased same]
    cases found : store.changesets.find? lease.changesetId with
    | none =>
      exact .rowGone ⟨record, leased, same⟩ found
        ⟨rfl, rfl, rfl, rfl, rfl, fun _ => rfl, others, released⟩ found
    | some row =>
      refine .applied leased same found ⟨rfl, rfl, rfl, rfl, rfl, ?_, others, released⟩ ?_
        (row.writtenBack_withOutcome outcome record.closingAtClaim)
      · intro other different
        rw [Table.find?_insert, if_neg different.symm]
      · rw [Table.find?_insert, if_pos rfl]
  · rw [finish_of_not_holds holds]
    exact .lost holds

end Store

end BatchChanges
