import BatchChanges.Proofs.Campaign.Assignment
import BatchChanges.Proofs.System.Following

/-! # Changesets that an actor cannot see

The transaction of an application leaves a changeset alone if the actor cannot see its repository:
no spec is paired with it, else the transaction would have failed, and it does not leave the
campaign either. But all changesets of the campaign that wait are canceled before the transaction,
whoever can see them. So a changeset that cannot be seen stays as it is if and only if it is none of
them.
-/

namespace BatchChanges

namespace Access

variable {α : Type} {backend next : Backend}

/-- The waiting changesets of a campaign are canceled unless a failure ahead strikes. -/
theorem cancelQueued_store {campaign : CampaignId} {result : Except StoreError Nat}
    (done : Ends (cancelQueued campaign) backend result next) :
    (Fault.meet .cancelQueued backend.faults).1 = none ∧
        next.store = (backend.store.cancelQueued campaign).2 ∨
      (Fault.meet .cancelQueued backend.faults).1 ≠ none ∧ next.store = backend.store := by
  simp only [Ends, cancelQueued, call, callWith] at done
  split at done
  · next strikes =>
    cases done
    exact .inr ⟨by simp [strikes], rfl⟩
  · next passes =>
    cases done
    exact .inl ⟨by rw [passes], rfl⟩

end Access

namespace Application

variable {application : Application} {visible : Visibility} {spec : CampaignSpec}
  {applied : Campaign} {existing : Option Campaign} {now : Time} {backend next : Backend}
  {campaign other : CampaignId}

private theorem readSpec_faults (done : Access.Ends application.readSpec backend (.ok spec) next) :
    next.faults = (Fault.meet .findCampaignSpec backend.faults).2 := by
  simp only [readSpec, Access.ends_bind_ok, Access.ends_wrapping_ok] at done
  obtain ⟨found, middle, read, rest⟩ := done
  rw [← Access.faults_of_call read]
  split at rest
  · cases (Access.ends_throw.mp rest).1
  · split at rest
    · rw [(Access.ends_pure_ok.mp rest).2]
    · cases (Access.ends_throw.mp rest).1

private theorem readCampaign_faults
    (done : Access.Ends (application.readCampaign spec) backend (.ok existing) next) :
    next.faults = (Fault.meet .findCampaign backend.faults).2 := by
  simp only [readCampaign, Access.ends_bind_ok, Access.ends_wrapping_ok] at done
  obtain ⟨found, middle, read, rest⟩ := done
  rw [← Access.faults_of_call read]
  split at rest
  · cases (Access.ends_throw.mp rest).1
  · rw [(Access.ends_pure_ok.mp rest).2]

/-- What an application reads first leaves the failures ahead of its cancellation. -/
theorem meet_cancelQueued_of_reads {middle : Backend}
    (readSpec : Access.Ends application.readSpec backend (.ok spec) middle)
    (read : Access.Ends (application.readCampaign spec) middle (.ok existing) next) :
    (Fault.meet .cancelQueued next.faults).1 = (Fault.meet .cancelQueued backend.faults).1 := by
  rw [readCampaign_faults read, Fault.meet_meet (by decide), readSpec_faults readSpec,
    Fault.meet_meet (by decide)]

/-- An application cancels what waits of a campaign: it moves the campaign on from another spec, and
no failure of the store prevents the cancellation. -/
def Cancels (application : Application) (backend : Backend) (campaign : CampaignId) : Prop :=
  (∃ spec existing, backend.store.campaignSpecByRandId? application.randId = some spec ∧
      backend.store.campaignByName? spec.space spec.name = some existing ∧
      existing.campaignSpecId ≠ spec.id ∧ existing.id = campaign) ∧
    (Fault.meet .cancelQueued backend.faults).1 = none

private theorem Cancels.unique (cancels : application.Cancels backend campaign)
    (also : application.Cancels backend other) : campaign = other := by
  obtain ⟨⟨spec, existing, found, known, -, rfl⟩, -⟩ := cancels
  obtain ⟨⟨specToo, existingToo, foundToo, knownToo, -, rfl⟩, -⟩ := also
  rw [found] at foundToo
  cases foundToo
  rw [known] at knownToo
  cases knownToo
  rfl

/-- An application that succeeds changes nothing, or its transaction succeeds, after what it cancels
was canceled. -/
theorem canceled_of_run
    (saved : ∀ space name campaign, backend.store.campaignByName? space name = some campaign →
      campaign.id.isUnsaved = false)
    (done : Access.Ends (application.run visible now) backend (.ok applied) next) :
    (∀ campaign, ¬ application.Cancels backend campaign) ∧ next.store = backend.store ∨
    ∃ spec campaign middle, Access.Ends (application.transact visible spec campaign now) middle
        (.ok applied) next ∧
      ((∀ campaign, ¬ application.Cancels backend campaign) ∧ middle.store = backend.store ∨
        application.Cancels backend campaign.id ∧
          middle.store = (backend.store.cancelQueued campaign.id).2) := by
  rw [run, Access.ends_bind_ok] at done
  obtain ⟨spec, first, readSpec, done⟩ := done
  rw [Access.ends_bind_ok] at done
  obtain ⟨existing, second, read, done⟩ := done
  have sameSpec := readSpec_store readSpec
  have same : second.store = backend.store := (readCampaign_store read).trans sameSpec
  have known := (readSpec_ok readSpec).1
  have found := (readCampaign_ok read).1
  rw [sameSpec] at found
  have struck := meet_cancelQueued_of_reads readSpec read
  have only : ∀ {campaign}, application.Cancels backend campaign →
      ∃ record, existing = some record ∧ record.campaignSpecId ≠ spec.id ∧ record.id = campaign := by
    rintro campaign ⟨⟨specToo, record, knownToo, foundToo, moves, here⟩, -⟩
    rw [known] at knownToo
    cases knownToo
    exact ⟨record, found.symm.trans foundToo, moves, here⟩
  split at done
  · next record already =>
    obtain ⟨rfl, here⟩ := Option.filter_eq_some_iff.mp already
    obtain ⟨-, rfl⟩ := Access.ends_pure_ok.mp done
    refine .inl ⟨fun campaign cancels => ?_, same⟩
    obtain ⟨_, ⟨⟩, moves, -⟩ := only cancels
    exact moves (beq_iff_eq.mp here)
  · next elsewhere =>
    rw [Access.ends_bind_ok] at done
    obtain ⟨⟨⟩, third, canceled, transacts⟩ := done
    refine .inr ⟨spec, _, third, transacts, ?_⟩
    simp only [cancel] at canceled
    split at canceled
    · next unsaved =>
      obtain ⟨-, rfl⟩ := Access.ends_pure_ok.mp canceled
      refine .inl ⟨fun campaign cancels => ?_, same⟩
      obtain ⟨record, rfl, -, -⟩ := only cancels
      rw [show (application.revised spec (some record) now).id = record.id from rfl,
        saved _ _ record found] at unsaved
      cases unsaved
    · next stored =>
      rw [Access.ends_bind_ok] at canceled
      obtain ⟨outcome, fourth, tried, ended⟩ := canceled
      obtain ⟨-, rfl⟩ := Access.ends_pure_ok.mp ended
      obtain ⟨_, -, tried⟩ := Access.ends_attempt.mp tried
      rw [← same]
      rcases Access.cancelQueued_store tried with ⟨passes, reached⟩ | ⟨strikes, kept⟩
      · refine .inr ⟨⟨?_, struck ▸ passes⟩, reached⟩
        cases existing with
        | none => exact absurd rfl stored
        | some record =>
          refine ⟨spec, record, known, found, ?_, rfl⟩
          simpa [Option.filter_eq_none_iff] using elsewhere
      · exact .inl ⟨fun campaign cancels => strikes (struck ▸ cancels.2), kept⟩

end Application

/-- The transaction leaves a changeset alone if the actor cannot see its repository. -/
theorem Generation.Fate.kept_of_hidden {generation : Generation} {store next : Store}
    {id : ChangesetId} {row : Changeset} {after : Option Changeset}
    (fate : generation.Fate store id (some row) after) (realizes : generation.Realizes store next)
    (hidden : ∀ repo, store.repos.find? row.repoId = some repo →
      generation.visible generation.actor repo = false) : after = some row := by
  have unseen : ∀ repo, store.repos.find? row.repoId = some repo →
      generation.visible generation.actor repo ≠ true :=
    fun repo located => Bool.eq_false_iff.mp (hidden repo located)
  cases fate with
  | kept => rfl
  | left unwanted decided =>
    obtain ⟨repo, located, seen⟩ := unwanted.visible
    exact absurd seen (unseen repo located)
  | deleted unwanted decided =>
    obtain ⟨repo, located, seen⟩ := unwanted.visible
    exact absurd seen (unseen repo located)
  | followed paired =>
    -- The repository of the spec would have been missed.
    obtain ⟨repo, located, seen⟩ := realizes.seen paired
    have about := ((Store.mem_pairings paired).2 row rfl).2
    simp only [Store.isAbout, Bool.and_eq_true, beq_iff_eq] at about
    exact absurd seen (unseen repo (about.1 ▸ located))

/-- So an application that succeeds keeps it as its transaction finds it. -/
theorem Application.find?_of_hidden {application : Application} {visible : Visibility}
    {spec : CampaignSpec} {campaign applied : Campaign} {now : Time} {backend next : Backend}
    {id : ChangesetId} {row : Changeset} (numbered : backend.store.Numbered)
    (done : Access.Ends (application.transact visible spec campaign now) backend (.ok applied) next)
    (found : backend.store.changesets.find? id = some row)
    (hidden : ∀ repo, backend.store.repos.find? row.repoId = some repo →
      visible application.actor repo = false) : next.store.changesets.find? id = some row := by
  have fate := (transact_ok numbered done).2.2.row id
  rw [found] at fate
  exact fate.kept_of_hidden (realizes_of_transact numbered done) hidden

/-- Whoever waits is changed by the cancellation. -/
theorem Changeset.canceled_ne {row : Changeset} {campaign : CampaignId}
    (waits : row.isCancelable campaign = true) : row.canceled ≠ row := by
  intro same
  have state : QueueState.errored = row.queueState := congrArg (·.queueState) same
  have retry : none = row.processAfter := congrArg (·.processAfter) same
  simp [isCancelable, ← state, ← retry] at waits

namespace System

/-- In every state that a run reaches from the empty store, whatever failures of the store lie
ahead, an application that succeeds keeps every changeset whose repository the actor cannot see, in
all of its campaigns. The changeset stays as it is if and only if it does not wait in a campaign
that the application moves on from another spec, or a failure of the store prevents that what waits
is canceled; else it is canceled, and nothing more. -/
theorem unseen_left_alone_iff (faults : List Fault) (now : Time) (events : List Event)
    (application : Application) (visible : Visibility) (moment : Time) (applied : Campaign)
    (backend : Backend)
    (succeeds : Access.Ends (application.run visible moment)
      ((start faults now).run events).world.backend (.ok applied) backend)
    (id : ChangesetId) (row : Changeset)
    (found : ((start faults now).run events).store.changesets.find? id = some row)
    (hidden : ∀ repo, ((start faults now).run events).store.repos.find? row.repoId = some repo →
      visible application.actor repo = false) :
    ∃ after, backend.store.changesets.find? id = some after ∧
      after.campaignIds = row.campaignIds ∧ (after = row ∨ after = row.canceled) ∧
      (after = row ↔ ∀ campaign,
        application.Cancels ((start faults now).run events).world.backend campaign →
        row.isCancelable campaign = false) := by
  have sound := (sound_start faults now).run events
  have begun : (start faults now).store.Agrees := Store.agrees_empty
  have agrees := agrees_run begun (sound_start faults now) events
  have saved : ∀ space name campaign,
      ((start faults now).run events).store.campaignByName? space name = some campaign →
      campaign.id.isUnsaved = false := by
    intro space name campaign known
    obtain ⟨key, stored⟩ := Table.mem_rows_iff.mp (List.mem_of_find?_eq_some known)
    rw [(agrees.lists stored).1]
    exact isUnsaved_of_stored faults now events stored
  obtain ⟨idle, same⟩ | ⟨spec, campaign, middle, transacts, canceled⟩ :=
    Application.canceled_of_run saved succeeds
  · exact ⟨row, same ▸ found, rfl, .inl rfl,
      fun _ campaign cancels => absurd cancels (idle campaign), fun _ => rfl⟩
  · have keeps : ∀ {before : Changeset}, middle.store.Numbered →
        middle.store.repos = ((start faults now).run events).store.repos →
        middle.store.changesets.find? id = some before → before.repoId = row.repoId →
        backend.store.changesets.find? id = some before := by
      intro before numbered repos stored here
      refine Application.find?_of_hidden numbered transacts stored ?_
      rw [repos, here]
      exact hidden
    rcases canceled with ⟨idle, same⟩ | ⟨cancels, same⟩
    · exact ⟨row, keeps (same ▸ sound.numbered) (by rw [same]; rfl) (same ▸ found) rfl, rfl,
        .inl rfl, fun _ other cancels => absurd cancels (idle other), fun _ => rfl⟩
    · have numbered := sound.numbered.cancelQueued campaign.id
      have stored : middle.store.changesets.find? id =
          some (if row.isCancelable campaign.id then row.canceled else row) := by
        rw [same, Store.cancelQueued, Store.find?_updateWhere,
          show ((start faults now).run events).world.backend.store.changesets.find? id = some row
          from found, Option.map_some]
      cases waits : row.isCancelable campaign.id with
      | true =>
        rw [waits, if_pos rfl] at stored
        refine ⟨row.canceled, keeps (same ▸ numbered) (by rw [same]; rfl) stored rfl, rfl, .inr rfl,
          fun stays => absurd stays (Changeset.canceled_ne waits), fun spared => ?_⟩
        rw [spared campaign.id cancels] at waits
        cases waits
      | false =>
        rw [waits, if_neg (by decide)] at stored
        refine ⟨row, keeps (same ▸ numbered) (by rw [same]; rfl) stored rfl, rfl, .inl rfl,
          fun _ other also => ?_, fun _ => rfl⟩
        rw [also.unique cancels]
        exact waits

end System

namespace Sample

/-- The first generation is applied in two repositories; the second one wants nothing of the second
repository any more. -/
def unseen : List Event :=
  [.putRepo repo, .putRepo { repo with id := ⟨2⟩ }, .addCampaignSpec (campaignSpec "a"),
    .addChangesetSpec (spec 1 "a" "a"), .addChangesetSpec { spec 1 "a" "a" with repoId := ⟨2⟩ },
    .addCampaignSpec (campaignSpec "b"), .addChangesetSpec (spec 4 "b" "b")] ++ apply "a"

/-- The first repository is the only one that can be seen. -/
def onlyFirst : Visibility := fun _ repo => repo.id == ⟨1⟩

/-- Attempts on both changesets begin. -/
def begun : List Event := unseen ++ attempt 0 0 ++ attempt 1 0

end Sample

open Sample in
/-- A changeset that is being worked on is left alone. -/
theorem System.unseen_left_alone_iff_processing :
    ∃ row applied backend,
      ((start [] (instant 0)).run begun).store.changesets.find? ⟨8⟩ = some row ∧
      row.isOwnedBy ⟨6⟩ = true ∧ row.queueState = .processing ∧
      Access.Ends ((applying "b").run onlyFirst (instant 0))
        ((start [] (instant 0)).run begun).world.backend (.ok applied) backend ∧
      backend.store.changesets.find? ⟨8⟩ = some row := by
  obtain ⟨applied, backend, ended⟩ := Access.ends_ok_of_isOk (show
    ((applying "b").run onlyFirst (instant 0)
      ((start [] (instant 0)).run begun).world.backend).1.isOk = true by decide +kernel)
  obtain ⟨row, found, known⟩ := Option.map_eq_some_iff.mp (show
    (((start [] (instant 0)).run begun).store.changesets.find? ⟨8⟩).map (fun row =>
      (row.repoId, row.isOwnedBy ⟨6⟩, row.queueState)) = some (⟨2⟩, true, .processing) by
    decide +kernel)
  simp only [Prod.mk.injEq] at known
  obtain ⟨here, owned, busy⟩ := known
  obtain ⟨other, located⟩ := Option.map_eq_some_iff.mp (show
    ((((start [] (instant 0)).run begun).store.repos.find? ⟨2⟩).map (·.id)) = some ⟨2⟩ by
    decide +kernel)
  obtain ⟨after, stored, -, -, stays⟩ := unseen_left_alone_iff [] (instant 0) begun
    (applying "b") onlyFirst (instant 0) applied backend ended ⟨8⟩ row found (by
      intro repo named
      rw [here, located.1] at named
      cases named
      rw [onlyFirst, located.2]
      rfl)
  refine ⟨row, applied, backend, found, owned, busy, ended, stays.mpr ?_ ▸ stored⟩
  intro campaign cancels
  rw [Changeset.isCancelable, busy, Bool.and_false]

open Sample in
/-- A changeset that waits is canceled, although the actor cannot see its repository. -/
theorem System.unseen_changeset_canceled :
    ∃ row applied backend,
      ((start [] (instant 0)).run unseen).store.changesets.find? ⟨8⟩ = some row ∧
      (∀ repo, ((start [] (instant 0)).run unseen).store.repos.find? row.repoId = some repo →
        onlyFirst (applying "b").actor repo = false) ∧
      Access.Ends ((applying "b").run onlyFirst (instant 0))
        ((start [] (instant 0)).run unseen).world.backend (.ok applied) backend ∧
      backend.store.changesets.find? ⟨8⟩ = some row.canceled ∧ row.canceled ≠ row := by
  obtain ⟨applied, backend, ended⟩ := Access.ends_ok_of_isOk (show
    ((applying "b").run onlyFirst (instant 0)
      ((start [] (instant 0)).run unseen).world.backend).1.isOk = true by decide +kernel)
  obtain ⟨row, found, known⟩ := Option.map_eq_some_iff.mp (show
    (((start [] (instant 0)).run unseen).store.changesets.find? ⟨8⟩).map (fun row =>
      (row.repoId, row.isCancelable ⟨6⟩)) = some (⟨2⟩, true) by decide +kernel)
  simp only [Prod.mk.injEq] at known
  obtain ⟨here, waits⟩ := known
  obtain ⟨other, located⟩ := Option.map_eq_some_iff.mp (show
    ((((start [] (instant 0)).run unseen).store.repos.find? ⟨2⟩).map (·.id)) = some ⟨2⟩ by
    decide +kernel)
  have later : (((applying "b").run onlyFirst (instant 0)
      ((start [] (instant 0)).run unseen).world.backend).2.store.changesets.find? ⟨8⟩) =
      (((start [] (instant 0)).run unseen).store.changesets.find? ⟨8⟩).map (·.canceled) := by
    decide +kernel
  rw [found, Option.map_some, show ((applying "b").run onlyFirst (instant 0)
    ((start [] (instant 0)).run unseen).world.backend).2 = backend from
    congrArg Prod.snd ended] at later
  refine ⟨row, applied, backend, found, ?_, ended, later, Changeset.canceled_ne waits⟩
  intro repo named
  rw [here, located.1] at named
  cases named
  rw [onlyFirst, located.2]
  rfl

end BatchChanges
