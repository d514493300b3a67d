import BatchChanges.Proofs.Campaign.Refusal
import BatchChanges.Proofs.System.Unseen

/-! # What an application that fails leaves behind

All that happens in the transaction of an application is undone if any of its calls fails, be it the
one that ends it. But the waiting changesets of the campaign are canceled before the transaction
begins, and that is not undone. Whoever is refused is refused before that, and a campaign that is
not there yet has nothing to cancel.
-/

namespace BatchChanges

namespace Application

variable {application : Application} {visible : Visibility} {spec : CampaignSpec}
  {existing : Option Campaign} {now : Time} {backend next : Backend} {error : CampaignError}

/-- Canceling before a transaction leaves the store alone, or cancels what waits of the campaign
that is moved on. -/
theorem record_of_cancel {result : Except CampaignError Unit}
    (done : Access.Ends (cancel (application.revised spec existing now)) backend result next) :
    next.store = backend.store ∨
      ∃ record, existing = some record ∧ (Fault.meet .cancelQueued backend.faults).1 = none ∧
        next.store = (backend.store.cancelQueued record.id).2 := by
  simp only [cancel] at done
  split at done
  · cases done
    exact .inl rfl
  · next saved =>
    rw [Access.ends_bind] at done
    rcases done with ⟨outcome, middle, tried, rest⟩ | ⟨error, -, failed⟩
    · cases rest
      obtain ⟨_, -, tried⟩ := Access.ends_attempt.mp tried
      rcases Access.cancelQueued_store tried with ⟨passes, reached⟩ | ⟨-, kept⟩
      · cases existing with
        | none => exact absurd rfl saved
        | some record => exact .inr ⟨record, rfl, passes, reached⟩
      · exact .inl kept
    · obtain ⟨_, told, -⟩ := Access.ends_attempt.mp failed
      cases told

/-- An application leaves the store alone, or its transaction takes place after the waiting
changesets of the campaign were canceled, if there is one and no failure ahead strikes. -/
theorem transacts_of_run {result : Except CampaignError Campaign}
    (done : Access.Ends (application.run visible now) backend result next) :
    next.store = backend.store ∨ ∃ spec existing middle,
      backend.store.campaignSpecByRandId? application.randId = some spec ∧
      backend.store.campaignByName? spec.space spec.name = existing ∧
      existing.filter (·.campaignSpecId == spec.id) = none ∧
      (middle.store = backend.store ∨ ∃ record, existing = some record ∧
        (Fault.meet .cancelQueued backend.faults).1 = none ∧
        middle.store = (backend.store.cancelQueued record.id).2) ∧
      Access.Ends (application.transact visible spec (application.revised spec existing now) now)
        middle result next := by
  rw [run, Access.ends_bind] at done
  rcases done with ⟨spec, first, readSpec, rest⟩ | ⟨_, -, failed⟩
  · have sameSpec := readSpec_store readSpec
    rw [Access.ends_bind] at rest
    rcases rest with ⟨existing, second, read, rest⟩ | ⟨_, -, failed⟩
    · have same : second.store = backend.store := (readCampaign_store read).trans sameSpec
      split at rest
      · cases rest
        exact .inl same
      · next moves =>
        rw [Access.Ends, Applying.cancel_bind] at rest
        refine .inr ⟨spec, existing, _, (readSpec_ok readSpec).1,
          sameSpec ▸ (readCampaign_ok read).1, moves, ?_, rest⟩
        rcases record_of_cancel (Access.ends_self
          (cancel (application.revised spec existing now)) second) with
          kept | ⟨record, here, passes, reached⟩
        · exact .inl (kept.trans same)
        · have struck := meet_cancelQueued_of_reads readSpec read
          exact .inr ⟨record, here, struck ▸ passes, same ▸ reached⟩
    · exact .inl ((readCampaign_store failed).trans sameSpec)
  · exact .inl (readSpec_store failed)

/-- An application that fails changes nothing, or its transaction fails, after what it cancels was
canceled. -/
theorem store_of_failed
    (failed : Access.Ends (application.run visible now) backend (.error error) next) :
    next.store = backend.store ∨
      error.isRefusal = false ∧ ∃ campaign, application.Cancels backend campaign ∧
        next.store = (backend.store.cancelQueued campaign).2 := by
  rcases transacts_of_run failed with same | ⟨spec, _, middle, known, named, moves, canceled, tried⟩
  · exact .inl same
  · have same : next.store = middle.store := by rw [transact_error tried]
    rcases canceled with kept | ⟨record, rfl, passes, reached⟩
    · exact .inl (same.trans kept)
    · refine .inr ⟨transact_not_refused tried, record.id, ⟨⟨spec, record, known, named, ?_, rfl⟩,
        passes⟩, same.trans reached⟩
      simpa [Option.filter_eq_none_iff] using moves

/-- In every store, with any failures ahead, an application that fails leaves the whole store as it
was, or with the waiting changesets of the campaign canceled that it would have moved on. It leaves
the store as it was if it is refused, and if there is no campaign of the namespace and name of its
spec. -/
theorem failure_keeps_or_cancels (application : Application) (visible : Visibility) (now : Time)
    (backend next : Backend) (error : CampaignError)
    (failed : Access.Ends (application.run visible now) backend (.error error) next) :
    (next.store = backend.store ∨ ∃ campaign, application.Cancels backend campaign ∧
      next.store = (backend.store.cancelQueued campaign).2) ∧
    (error.isRefusal = true → next.store = backend.store) ∧
    ((∀ spec, backend.store.campaignSpecByRandId? application.randId = some spec →
      backend.store.campaignByName? spec.space spec.name = none) →
      next.store = backend.store) := by
  rcases store_of_failed failed with kept | ⟨unrefused, campaign, cancels, canceled⟩
  · exact ⟨.inl kept, fun _ => kept, fun _ => kept⟩
  · refine ⟨.inr ⟨campaign, cancels, canceled⟩, fun refused => ?_, fun missing => ?_⟩
    · rw [unrefused] at refused
      cases refused
    · obtain ⟨⟨spec, existing, known, found, -⟩, -⟩ := cancels
      rw [missing spec known] at found
      cases found

end Application

namespace Sample

/-- The store fails when the second transaction is to be committed. -/
def fullDisk : List Fault := [⟨.commit, 1, "disk full"⟩]

/-- Two generations of a campaign, the first of them applied. -/
def uncommitted : System := (System.start fullDisk (instant 0)).run setUp

end Sample

open Sample in
/-- The second generation is not committed: the changeset of the first one is canceled, and nothing
else has changed. -/
theorem Application.failure_keeps_or_cancels_uncommitted :
    ∃ error backend campaign row, Access.Ends ((applying "b").run visible (instant 0))
        uncommitted.world.backend (.error error) backend ∧
      backend.store = (uncommitted.store.cancelQueued campaign).2 ∧
      uncommitted.store.changesets.find? changeset = some row ∧
      backend.store.changesets.find? changeset = some row.canceled ∧ row.canceled ≠ row := by
  obtain ⟨error, backend, ended⟩ := Access.ends_error_of_isOk (show
    ((applying "b").run visible (instant 0) uncommitted.world.backend).1.isOk = false by
      decide +kernel)
  obtain ⟨row, found, waits⟩ := Option.map_eq_some_iff.mp (show
    (uncommitted.store.changesets.find? changeset).map (·.isCancelable ⟨5⟩) = some true by
      decide +kernel)
  have later : ((applying "b").run visible (instant 0)
      uncommitted.world.backend).2.store.changesets.find? changeset =
        (uncommitted.store.changesets.find? changeset).map (·.canceled) := by decide +kernel
  rw [found, Option.map_some, congrArg Prod.snd ended] at later
  have changes := Changeset.canceled_ne waits
  rcases (failure_keeps_or_cancels (applying "b") visible (instant 0) _ backend error ended).1 with
    kept | ⟨campaign, -, canceled⟩
  · rw [kept] at later
    exact absurd (Option.some.inj (later.symm.trans found)) changes
  · exact ⟨error, backend, campaign, row, ended, canceled, found, later, changes⟩

end BatchChanges
