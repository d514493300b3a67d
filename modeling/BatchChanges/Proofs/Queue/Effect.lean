import BatchChanges.Store.Queue
import Mathlib.Tactic.Common

/-! # What the calls of the queue do

Each call is described once, by what it leaves in the tables. A claim takes a due row that is under
no lease; a renewal and a write-back go by the token of the lease that the store has; and whatever
else housekeeping and cancellations do, they never put a row into processing.
-/

namespace BatchChanges

namespace Changeset

private theorem first?_mem {rows : List Changeset} {row : Changeset}
    (found : first? rows = some row) : row ∈ rows := by
  induction rows generalizing row with
  | nil => cases found
  | cons head rest ih =>
    simp only [first?] at found
    split at found
    · cases found
      exact List.mem_cons_self
    · next other served =>
      split at found
      · cases found
        exact List.mem_cons_self
      · cases found
        exact List.mem_cons_of_mem _ (ih served)

end Changeset

namespace Store

/-- The store without its queue. -/
def surroundings (store : Store) : Store := { store with changesets := ∅, leases := ∅ }

/-- Stores of the same surroundings whose queues answer every look-up alike are equal. -/
theorem ext_queue {store other : Store} (rest : store.surroundings = other.surroundings)
    (rows : ∀ id, store.changesets.find? id = other.changesets.find? id)
    (leases : ∀ id, store.leases.find? id = other.leases.find? id) : store = other := by
  have sameRows := Table.ext_find? rows
  have sameLeases := Table.ext_find? leases
  cases store
  cases other
  simp only [surroundings, mk.injEq] at rest sameRows sameLeases ⊢
  exact ⟨rest.1, rest.2.1, rest.2.2.1, rest.2.2.2.1, sameRows, sameLeases, rest.2.2.2.2.2.2⟩

/-- A candidate is a stored row that is due and whose number is under no lease. -/
theorem candidate?_eq_some {store : Store} {now : Time} {row : Changeset}
    (found : store.candidate? now = some row) :
    (∃ id, store.changesets.find? id = some row) ∧ row.isDue now = true ∧
      store.leases.find? row.id = none := by
  have member := Changeset.first?_mem found
  simp only [List.mem_filter, Bool.and_eq_true, Bool.not_eq_true', Table.mem_rows_iff] at member
  obtain ⟨stored, due, free⟩ := member
  refine ⟨stored, due, ?_⟩
  simpa [Table.contains] using free

/-- A claim changes nothing without a candidate; otherwise it puts the candidate into processing
and notes the lease. -/
theorem leaseNext_eq_ok {store next : Store} {worker token : String} {now : Time}
    {length : Duration} {claim : Option (Changeset × Lease)}
    (claimed : store.leaseNext worker token now length = .ok (claim, next)) :
    (claim = none ∧ next = store) ∨
      ∃ row expiresAt, store.candidate? now = some row ∧
        claim = some ({ row with queueState := .processing }, ⟨row.id, worker, token, expiresAt⟩) ∧
        next = { store with
          changesets := store.changesets.insert row.id { row with queueState := .processing }
          leases := store.leases.insert row.id
            ⟨⟨row.id, worker, token, expiresAt⟩, row.closing⟩ } := by
  simp only [leaseNext] at claimed
  split at claimed
  · cases claimed
    exact .inl ⟨rfl, rfl⟩
  · next row found =>
    right
    cases reached : expiry now length with
    | error interrupt => simp [reached, bind, Except.bind] at claimed
    | ok expiresAt =>
      simp only [reached, bind, Except.bind, pure, Except.pure, Except.ok.injEq,
        Prod.mk.injEq] at claimed
      obtain ⟨rfl, rfl⟩ := claimed
      exact ⟨row, expiresAt, found, rfl, rfl⟩

/-- The store has this lease as the one that stands on its changeset. -/
def Holds (store : Store) (lease : Lease) : Prop :=
  ∃ record, store.leases.find? lease.changesetId = some record ∧
    record.lease.token = lease.token

instance (store : Store) (lease : Lease) : Decidable (store.Holds lease) :=
  decidable_of_iff ((store.leases.find? lease.changesetId).any fun record =>
    decide (record.lease.token = lease.token)) (by simp [Holds, Option.any_eq_true])

/-- A renewal that is accepted sets the expiry of the lease that stands; any other one changes
nothing. -/
theorem renew_eq_ok {store next : Store} {lease renewed : Lease} {now : Time} {length : Duration}
    {verdict : Verdict} (done : store.renew lease now length = .ok ((verdict, renewed), next)) :
    (verdict ≠ .applied ∧ renewed = lease ∧ next = store) ∨
      ∃ record expiresAt, verdict = .applied ∧
        store.leases.find? lease.changesetId = some record ∧
        record.lease.token = lease.token ∧ renewed = { lease with expiresAt } ∧
        next = { store with
          leases := store.leases.insert lease.changesetId
            { record with lease := { record.lease with expiresAt } } } := by
  simp only [renew] at done
  split at done
  · split at done
    · cases done
      exact .inl ⟨by decide, rfl, rfl⟩
    · next record found =>
      split at done
      · next same =>
        right
        cases reached : expiry now length with
        | error interrupt => simp [reached, bind, Except.bind] at done
        | ok expiresAt =>
          simp only [reached, bind, Except.bind, pure, Except.pure, Except.ok.injEq,
            Prod.mk.injEq] at done
          obtain ⟨⟨rfl, rfl⟩, rfl⟩ := done
          exact ⟨record, expiresAt, rfl, found, same, rfl, rfl⟩
      · cases done
        exact .inl ⟨by decide, rfl, rfl⟩
  · cases done
    exact .inl ⟨by decide, rfl, rfl⟩

/-- Only the lease of a changeset that exists is renewed. -/
theorem row_of_renew_applied {store next : Store} {lease renewed : Lease} {now : Time}
    {length : Duration} (done : store.renew lease now length = .ok ((.applied, renewed), next)) :
    ∃ row, store.changesets.find? lease.changesetId = some row := by
  simp only [renew] at done
  split at done
  · next present => exact Table.contains_iff.mp present
  · cases done

/-- A lease that does not stand is not renewed, whatever the length asked for. -/
theorem renew_of_not_holds {store : Store} {lease : Lease} (lost : ¬ store.Holds lease)
    (now : Time) (length : Duration) :
    ∃ verdict, verdict ≠ .applied ∧
      store.renew lease now length = .ok ((verdict, lease), store) := by
  simp only [renew]
  split
  · split
    · exact ⟨.leaseLost, by decide, rfl⟩
    · next record found =>
      have other : record.lease.token ≠ lease.token := fun same => lost ⟨record, found, same⟩
      exact ⟨.leaseLost, by decide, by rw [if_neg other]⟩
  · exact ⟨.rowGone, by decide, rfl⟩

/-- A lease that does not stand writes nothing back. -/
theorem finish_of_not_holds {store : Store} {lease : Lease} (lost : ¬ store.Holds lease)
    (outcome : Changeset) : store.finish lease outcome = (.leaseLost, store) := by
  simp only [finish]
  split
  · rfl
  · next record found =>
    exact if_neg fun same => lost ⟨record, found, same⟩

/-- A lease that stands is released by its write-back, which is applied if the row exists. -/
theorem finish_of_record {store : Store} {lease : Lease} {record : LeaseRecord}
    (found : store.leases.find? lease.changesetId = some record)
    (same : record.lease.token = lease.token) (outcome : Changeset) :
    store.finish lease outcome =
      match store.changesets.find? lease.changesetId with
      | none => (.rowGone, { store with leases := store.leases.erase lease.changesetId })
      | some row => (.applied, { store with
          leases := store.leases.erase lease.changesetId
          changesets := store.changesets.insert lease.changesetId
            (row.withOutcome outcome record.closingAtClaim) }) := by
  cases stored : store.changesets.find? lease.changesetId <;>
    simp only [finish, found, if_pos same, stored]

theorem finish_leases {store : Store} {lease : Lease} (holds : store.Holds lease)
    (outcome : Changeset) :
    (store.finish lease outcome).2.leases = store.leases.erase lease.changesetId := by
  obtain ⟨record, found, same⟩ := holds
  rw [finish_of_record found same]
  split <;> rfl

/-- Only a lease that stands has its write-back applied. -/
theorem holds_of_finish_applied {store : Store} {lease : Lease} {outcome : Changeset}
    (applied : (store.finish lease outcome).1 = .applied) : store.Holds lease := by
  by_contra lost
  rw [finish_of_not_holds lost] at applied
  cases applied

@[simp] theorem find?_updateWhere (store : Store) (test : Changeset → Bool)
    (revise : Changeset → Changeset) (id : ChangesetId) :
    (store.updateWhere test revise).changesets.find? id =
      (store.changesets.find? id).map fun row => if test row then revise row else row :=
  Table.find?_map _ _ _

@[simp] theorem leases_cancelQueued (store : Store) (campaign : CampaignId) :
    (store.cancelQueued campaign).2.leases = store.leases := rfl

@[simp] theorem leases_requeueDue (store : Store) (now : Time) (maxAttempts : UInt32) :
    (store.requeueDue now maxAttempts).2.leases = store.leases := rfl

/-- A write-back leaves campaigns alone. -/
@[simp] theorem campaigns_finish (store : Store) (lease : Lease) (outcome : Changeset) :
    (store.finish lease outcome).2.campaigns = store.campaigns := by
  by_cases holds : store.Holds lease
  · obtain ⟨record, found, same⟩ := holds
    rw [finish_of_record found same]
    split <;> rfl
  · rw [finish_of_not_holds holds]

/-- The reset keeps exactly the leases that have not ended. -/
@[simp] theorem find?_leases_resetExpired (store : Store) (now : Time) (id : ChangesetId) :
    (store.resetExpired now).2.leases.find? id =
      (store.leases.find? id).filter fun record => !record.lease.isExpired now :=
  Table.find?_filter _ _ _

/-- The reset gives exactly the rows of the leases back that have ended. -/
theorem find?_resetExpired (store : Store) (now : Time) (id : ChangesetId) :
    (store.resetExpired now).2.changesets.find? id =
      (store.changesets.find? id).map fun row =>
        if (store.leases.find? id).any (·.lease.isExpired now) then row.released else row := by
  simp only [resetExpired, Table.find?_mapWithId, Table.contains, Table.find?_filter]
  cases store.leases.find? id with
  | none => rfl
  | some record => simp [Option.filter, Option.isSome_ite]

end Store

end BatchChanges
