import BatchChanges.Proofs.Campaign.Fate
import BatchChanges.Proofs.Queue.History

/-! # Stores that can come about

A store comes about by the calls that are made: repositories and specs are added, transactions are
committed, and the queue is called at any times, with any tokens and outcomes. A row that is put
into the store from outside is a transaction of one write. Whatever is written, everything stays
under its own number.
-/

namespace BatchChanges.Store

variable {store : Store}

namespace Numbered

/-- Every write of a transaction keeps the numbers in order, or fails. -/
theorem edit (numbered : store.Numbered) (edit : Edit) : (store.edit edit).Numbered := by
  cases edit with
  | createCampaign campaign =>
    simp only [Store.edit]
    split
    · next done => exact numbered.insertCampaign done
    · exact numbered
  | updateCampaign campaign =>
    simp only [Store.edit]
    split
    · next done => exact numbered.replaceCampaign done
    · exact numbered
  | upsertChangeset changeset =>
    simp only [Store.edit]
    split
    · next done => exact numbered.upsertChangeset done
    · exact numbered
  | deleteChangeset id =>
    simp only [Store.edit]
    split
    · next done => exact numbered.deleteChangeset done
    · exact numbered

private theorem edits (numbered : store.Numbered) (edits : List Edit) :
    (edits.foldl Store.edit store).Numbered := by
  induction edits generalizing store with
  | nil => exact numbered
  | cons edit rest ih => exact ih (numbered.edit edit)

/-- So does every call to the queue. -/
theorem perform (numbered : store.Numbered) (call : QueueCall) :
    (call.perform store).2.Numbered := by
  cases call with
  | claim worker token now length =>
    simp only [QueueCall.perform]
    split
    · next claimed =>
      obtain ⟨none, -⟩ | ⟨row, expiresAt, found, -, rfl⟩ := leaseNext_eq_ok claimed
      · cases none
      · exact numbered.claim found worker token expiresAt
    · next claimed =>
      obtain ⟨-, rfl⟩ | ⟨row, expiresAt, -, some, -⟩ := leaseNext_eq_ok claimed
      · exact numbered
      · cases some
    · exact numbered
  | renew lease now length =>
    simp only [QueueCall.perform]
    split
    · next renewed =>
      obtain ⟨-, -, rfl⟩ | ⟨record, expiresAt, -, found, -, -, rfl⟩ := renew_eq_ok renewed
      · exact numbered
      · exact numbered.renew found expiresAt
    · exact numbered
  | finish lease outcome => exact numbered.finish lease outcome
  | resetExpired now => exact numbered.resetExpired now
  | requeueDue now maxAttempts => exact numbered.requeueDue now maxAttempts
  | cancelQueued campaign => exact numbered.cancelQueued campaign
  | commit edits => exact numbered.edits edits

end Numbered

/-- The stores that can come about. -/
inductive Reachable : Store → Prop
  | empty : Reachable ∅
  | repoPut {store : Store} (before : Reachable store) (repo : Repo) :
      Reachable (store.putRepo repo)
  | campaignSpecAdded {store : Store} (before : Reachable store) (spec : CampaignSpec) :
      Reachable (store.addCampaignSpec spec).2
  | changesetSpecAdded {store : Store} (before : Reachable store) (spec : ChangesetSpec) :
      Reachable (store.addChangesetSpec spec).2
  | called {store : Store} (before : Reachable store) (call : QueueCall) :
      Reachable (call.perform store).2

/-- In a store that can come about, everything is under its own number. -/
theorem Reachable.numbered (reachable : store.Reachable) : store.Numbered := by
  induction reachable with
  | empty => exact numbered_empty
  | repoPut before repo ih => exact ih.putRepo repo
  | campaignSpecAdded before spec ih =>
    exact ih.skip _ fun found => Int.le_add_one (ih.campaigns found)
  | changesetSpecAdded before spec ih => exact ih.addChangesetSpec spec
  | called before call ih => exact ih.perform call

end BatchChanges.Store
