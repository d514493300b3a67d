import BatchChanges.Proofs.Attempt.Knowledge
import BatchChanges.Proofs.Reconcile.Execution
import BatchChanges.Proofs.System.Requeue

/-! # Attempts that nobody disturbs

A worker that has claimed a changeset is left alone as long as nobody else makes calls to the store,
and the code host is discreet if it makes none while it answers. Then the store has the changeset as
it was claimed, under the lease that the worker has renewed last, until the worker writes back, and
merging the outcome into what is stored gives the outcome itself.
-/

namespace BatchChanges

variable {σ : Type}

namespace Changeset

/-- What a campaign has made of a changeset stays, except that the wish to close may end, and
statistics do not get lost. -/
structure Retains (claimed row : Changeset) : Prop where
  identity : row.identity = claimed.identity
  campaignIds : row.campaignIds = claimed.campaignIds
  currentSpecId : row.currentSpecId = claimed.currentSpecId
  previousSpecId : row.previousSpecId = claimed.previousSpecId
  closing : row.closing = true → claimed.closing = true
  diffStat : row.diffStat = none → claimed.diffStat = none

variable {claimed middle row outcome : Changeset}

private theorem Retains.refl (row : Changeset) : row.Retains row :=
  ⟨rfl, rfl, rfl, rfl, fun closing => closing, fun none => none⟩

private theorem Retains.trans (first : claimed.Retains middle) (second : middle.Retains row) :
    claimed.Retains row where
  identity := second.identity.trans first.identity
  campaignIds := second.campaignIds.trans first.campaignIds
  currentSpecId := second.currentSpecId.trans first.currentSpecId
  previousSpecId := second.previousSpecId.trans first.previousSpecId
  closing closing := first.closing (second.closing closing)
  diffStat none := first.diffStat (second.diffStat none)

/-- Merging what has come of a claimed changeset into the changeset as it was claimed leaves
nothing of the claim. -/
theorem withOutcome_of_retains (busy : claimed.queueState = .processing)
    (retains : claimed.Retains outcome) :
    claimed.withOutcome outcome claimed.closing = outcome := by
  obtain ⟨identity, campaignIds, currentSpecId, previousSpecId, closing, diffStat⟩ := retains
  simp only [Changeset.identity, Prod.mk.injEq] at identity
  have merged : (outcome.diffStat <|> claimed.diffStat) = outcome.diffStat := by
    cases measured : outcome.diffStat with
    | some statistics => rfl
    | none => exact diffStat measured
  have wish : (if claimed.closing && !outcome.closing then false else claimed.closing) =
      outcome.closing := by
    cases asked : claimed.closing with
    | true => cases outcome.closing <;> rfl
    | false =>
      cases asks : outcome.closing with
      | false => rfl
      | true => cases asked.symm.trans (closing asks)
  simp only [withOutcome, busy, merged, wish, beq_self_eq_true, if_true, ← campaignIds,
    ← currentSpecId, ← previousSpecId, ← identity.1, ← identity.2.1, ← identity.2.2.1,
    ← identity.2.2.2.1, ← identity.2.2.2.2]

end Changeset

/-- Operations change what is known of the pull request. -/
theorem Operation.retains_recorded (operation : Operation) (row : Changeset) (reply : Reply) :
    row.Retains (operation.recorded row reply) ∧
      (operation.recorded row reply).place = row.place := by
  have marked (before : Changeset) :
      before.Retains (operation.mark before) ∧ (operation.mark before).place = before.place := by
    cases operation with
    | close => exact ⟨⟨rfl, rfl, rfl, rfl, nofun, fun none => none⟩, rfl⟩
    | _ => exact ⟨⟨rfl, rfl, rfl, rfl, fun closing => closing, fun none => none⟩, rfl⟩
  cases reply with
  | nothing => exact marked row
  | pushed branch => exact ⟨⟨rfl, rfl, rfl, rfl, fun closing => closing, fun none => none⟩, rfl⟩
  | view view =>
    have viewed : row.Retains (row.withHostView view) := by
      refine ⟨rfl, rfl, rfl, rfl, fun closing => closing, ?_⟩
      simp only [Changeset.withHostView]
      cases view.diffStat <;> simp
    obtain ⟨retains, place⟩ := marked (row.withHostView view)
    exact ⟨viewed.trans retains, place⟩

private theorem Deed.retains_record (row : Changeset) (deed : Deed) :
    row.Retains (deed.record row) ∧ (deed.record row).place = row.place := by
  simp only [record]
  split
  · next operation reply _ _ => exact operation.retains_recorded row reply
  · exact ⟨.refl row, rfl⟩

/-- So does all that is done in an attempt. -/
theorem Deed.retains_foldl (row : Changeset) (log : List Deed) :
    row.Retains (log.foldl record row) ∧ (log.foldl record row).place = row.place := by
  induction log generalizing row with
  | nil => exact ⟨.refl row, rfl⟩
  | cons deed rest ih =>
    obtain ⟨first, stays⟩ := deed.retains_record row
    obtain ⟨later, place⟩ := ih (deed.record row)
    exact ⟨first.trans later, place.trans stays⟩

/-- A code host that makes no calls to the store. -/
structure Host.Discreet (host : Host σ) : Prop where
  push {repo : Repo} {branch : BranchPush} {world next : World σ}
    {result : Except (Interrupt HostError) Unit}
    (ended : (host.push repo branch).Ends world result next) :
    next.backend.store = world.backend.store
  request {repo : Repo} {asked : HostRequest} {world next : World σ}
    {result : Except (Interrupt HostError) PullRequest}
    (ended : (host.request repo asked).Ends world result next) :
    next.backend.store = world.backend.store

/-- A code host that does nothing but answer is discreet. -/
theorem HostReply.discreet (reply : HostReply) : reply.host.Discreet where
  push ended := by
    cases ended
    rfl
  request ended := by
    cases ended
    rfl

/-- A store has a changeset as it was claimed, in processing under its lease. -/
structure Store.Awaits (store : Store) (claimed : Changeset) (lease : Lease) : Prop where
  here : lease.changesetId = claimed.id
  busy : claimed.queueState = .processing
  found : store.changesets.find? lease.changesetId = some claimed
  leased : ∃ record, store.leases.find? lease.changesetId = some record ∧
    record.lease.token = lease.token ∧ record.closingAtClaim = claimed.closing

namespace Store.Awaits

variable {host : Host σ} {settings : Settings} {repo : Repo} {push : Option BranchPush}
  {claimed row : Changeset} {lease renewed last : Lease} {duty : Duty} {log : List Deed}
  {world next : World σ}

/-- So it is when the worker has claimed the changeset. -/
theorem of_claim {worker : String} {time : Time} {length : Duration}
    (claims : (Action.claim worker time length).Ends world (.ok (some (claimed, lease))) next) :
    next.backend.store.Awaits claimed lease := by
  obtain ⟨backend, called, rfl⟩ := Action.ends_claim.mp claims
  obtain ⟨none, -⟩ | ⟨found, expiresAt, -, granted, stored⟩ :=
    Store.leaseNext_eq_ok (Access.callWith_ok called)
  · cases none
  · cases granted
    change backend.store.Awaits _ _
    rw [stored]
    exact ⟨rfl, rfl, (Table.find?_insert _ _ _ _).trans (if_pos rfl),
      _, (Table.find?_insert _ _ _ _).trans (if_pos rfl), rfl, rfl⟩

/-- Fulfilling a duty leaves it so, but for the lease. -/
theorem ends (awaits : world.backend.store.Awaits claimed lease) (discreet : host.Discreet)
    {result : Except ReconcileError Reply}
    (done : duty.Ends host settings repo push row lease world result renewed next) :
    next.backend.store.Awaits claimed renewed := by
  cases done with
  | renewed asked =>
    obtain ⟨backend, called, rfl⟩ := Action.ends_timedAccess.mp asked
    obtain ⟨refused, -⟩ | ⟨record, expiresAt, -, leased, token, rfl, stored⟩ :=
      Store.renew_eq_ok (Access.callWith_ok called)
    · exact absurd rfl refused
    · obtain ⟨same, before, -, noted⟩ := awaits.leased
      cases leased.symm.trans before
      change backend.store.Awaits _ _
      rw [stored]
      exact ⟨awaits.here, awaits.busy, awaits.found, _,
        (Table.find?_insert _ _ _ _).trans (if_pos rfl), token, noted⟩
  | lost asked refused =>
    obtain ⟨backend, called, rfl⟩ := Action.ends_timedAccess.mp asked
    obtain ⟨-, -, stored⟩ | ⟨record, expiresAt, applied, -⟩ :=
      Store.renew_eq_ok (Access.callWith_ok called)
    · exact stored ▸ awaits
    · exact absurd applied refused
  | failed asked =>
    obtain ⟨backend, called, rfl⟩ := Action.ends_timedAccess.mp asked
    exact Access.callWith_error called ▸ awaits
  | run ended =>
    cases ended with
    | unfit misses => exact awaits
    | idle rests => exact awaits
    | pushed acts asked => exact discreet.push asked ▸ awaits
    | unpushed acts asked => exact discreet.push asked ▸ awaits
    | told acts asked => exact discreet.request asked ▸ awaits
    | refused acts asked => exact discreet.request asked ▸ awaits
    | slept acts waited =>
      have slept := (Action.sleep_eq world settings.sleepAfterPush).symm.trans waited
      split at slept <;> cases slept
      exact awaits

/-- So it is after all that the worker has done. -/
theorem after (awaits : world.backend.store.Awaits claimed lease) (discreet : host.Discreet)
    (happened : Log host settings repo push row lease world log last next) :
    next.backend.store.Awaits claimed last := by
  induction happened with
  | nothing => exact awaits
  | entry done rest ih => exact ih (awaits.ends discreet done)

/-- The write-back is applied: it stores the outcome and ends the lease. -/
theorem finished {store after : Store} {outcome : Changeset} {verdict : Verdict}
    (awaits : store.Awaits claimed lease) (retains : claimed.Retains outcome)
    (wrote : store.finish lease outcome = (verdict, after)) :
    verdict = .applied ∧ after = { store with
      changesets := store.changesets.insert claimed.id outcome
      leases := store.leases.erase claimed.id } := by
  obtain ⟨record, leased, token, noted⟩ := awaits.leased
  rw [Store.finish_of_record leased token, awaits.found] at wrote
  cases wrote
  rw [← awaits.here, noted, Changeset.withOutcome_of_retains awaits.busy retains]
  exact ⟨rfl, rfl⟩

theorem finish {store after : Store} {outcome : Changeset} {verdict : Verdict}
    (awaits : store.Awaits claimed lease) (retains : claimed.Retains outcome)
    (wrote : store.finish lease outcome = (verdict, after)) :
    verdict = .applied ∧ after.changesets.find? claimed.id = some outcome := by
  obtain ⟨applied, rfl⟩ := awaits.finished retains wrote
  exact ⟨applied, (Table.find?_insert _ _ _ _).trans (if_pos rfl)⟩

end Store.Awaits

end BatchChanges
